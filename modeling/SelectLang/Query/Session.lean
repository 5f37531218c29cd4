import SelectLang.Query.Reading

/-!
# Sessions

A session reads one list of tokens call by call. Each call starts where the one
before it stopped: after an error at the token of the error, which a statement
then has to begin with, and after success at the end.

Results:
* `next_tokens`: a call does not change the tokens.
* `results_succ`: the results of a session are the first call's and those of the
  session after it.
-/
namespace SelectLang

/-- A list of tokens and the index that the next call starts at. -/
structure Session where
  tokens : List Token
  position : Nat
  deriving DecidableEq

namespace Session

/-- The session before its first call. Comments in front are passed over, so
that no call starts at one. -/
def ofTokens (tokens : List Token) : Session :=
  ⟨tokens, (tokens.takeWhile fun t => t.kind = .comment).length⟩

def reading (s : Session) : Reading := Reading.ofTokens s.position (s.tokens.drop s.position)

def next (s : Session) : Session := { s with position := s.reading.position }

def results (s : Session) : Nat → List (Except ReadError (List Statement))
  | 0 => []
  | calls + 1 => s.reading.result :: s.next.results calls

theorem next_tokens (s : Session) : s.next.tokens = s.tokens := rfl

theorem results_succ (s : Session) (calls : Nat) :
    s.results (calls + 1) = s.reading.result :: s.next.results calls := rfl

end Session

end SelectLang
