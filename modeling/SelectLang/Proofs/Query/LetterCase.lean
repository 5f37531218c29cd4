import SelectLang.Proofs.Token.LetterCase
import Mathlib.Data.List.Forall2

/-!
# Letter case in statements

A reserved word means the same in every ASCII letter case. So a text in which the
letters of such words are written otherwise is read as the same statements, or is
refused at the same token for the same cause.

* `Reading.Recased`: two readings are the same but for the cases of the token that
  one is refused for.
* `ReadError.site`: all of an error but the literal of its token.

Results:
* `read_recased`: a token does the same in every case at every stage.
* `Recased.after`: so two readings stay the same but for cases.
* `parse_recased`: and a text is read as it is with other cases.
-/
namespace SelectLang

open SelectLang.Unicode SelectLang.Token

/-! ## One token -/

theorem truthValue?_recased {t t' : Token} (h : t.Recased t') :
    truthValue? t'.literal = truthValue? t.literal := by
  rw [truthValue?, truthValue?, h.letters]

theorem expression_recased {t t' : Token} (h : t.Recased t') : t'.expression = t.expression := by
  by_cases reserved : t.kind ∈ reservedKinds
  · have value := truthValue?_recased h
    simp only [reservedKinds, List.mem_cons, List.not_mem_nil, or_false] at reserved
    unfold Token.expression
    rcases reserved with kind | kind | kind | kind | kind <;> simp only [h.kind_eq, kind, value]
  · rw [h.kept reserved]

theorem read_recased (stage : Stage) {t t' : Token} (h : t.Recased t') :
    stage.read t' = stage.read t := by
  by_cases reserved : t.kind ∈ reservedKinds
  · have value := expression_recased h
    cases stage with
    | expression done => simp only [Stage.read, value, h.kind_eq]
    | _ =>
      simp only [reservedKinds, List.mem_cons, List.not_mem_nil, or_false] at reserved
      rcases reserved with kind | kind | kind | kind | kind <;>
        simp only [Stage.read, Stage.terminated, h.kind_eq, kind]
  · rw [h.kept reserved]

/-! ## Readings -/

namespace Reading

/-- The same status but for the cases of the refused token. -/
inductive Status.Recased : Status → Status → Prop
  | within (stage : Stage) : Recased (.within stage) (.within stage)
  | ended : Recased .ended .ended
  | failed (cause : ReadError.Cause) {t t' : Token} : t.Recased t' →
      Recased (.failed cause t) (.failed cause t')

/-- The readings are the same but for the cases of the refused token. -/
structure Recased (r s : Reading) : Prop where
  position : s.position = r.position
  statements : s.statements = r.statements
  status : r.status.Recased s.status

theorem Recased.push {r s : Reading} (h : r.Recased s) {t t' : Token} (same : t.Recased t') :
    (r.push t).Recased (s.push t') := by
  obtain ⟨position, statements, status⟩ := r
  obtain ⟨_, _, status'⟩ := s
  obtain ⟨rfl, rfl, status⟩ := h
  cases status with
  | within stage =>
    simp only [Reading.push, same.kind_eq, read_recased stage same]
    split
    · exact ⟨rfl, rfl, .within stage⟩
    · cases stage.read t with
      | advance next => exact ⟨rfl, rfl, .within next⟩
      | complete statement => exact ⟨rfl, rfl, .within .statement⟩
      | conclude statement => exact ⟨rfl, rfl, .ended⟩
      | reject cause => exact ⟨rfl, rfl, .failed cause same⟩
  | ended => exact ⟨rfl, rfl, .ended⟩
  | failed cause refused => exact ⟨rfl, rfl, .failed cause refused⟩

theorem Recased.after {r s : Reading} (h : r.Recased s) {tokens tokens' : List Token}
    (same : List.Forall₂ Token.Recased tokens tokens') :
    (r.after tokens).Recased (s.after tokens') := by
  induction same generalizing r s with
  | nil => exact h
  | cons first _ ih => exact ih (h.push first)

end Reading

/-- All of an error but the literal of its token. -/
def ReadError.site (e : ReadError) : ReadError.Cause × Nat × Token.Kind :=
  (e.cause, e.position, e.token.kind)

theorem Reading.Recased.result {r s : Reading} (h : r.Recased s) :
    s.result.mapError ReadError.site = r.result.mapError ReadError.site := by
  obtain ⟨position, statements, status⟩ := r
  obtain ⟨_, _, status'⟩ := s
  obtain ⟨rfl, rfl, status⟩ := h
  cases status with
  | within stage => rfl
  | ended => rfl
  | failed cause refused => simp [Reading.result, Except.mapError, ReadError.site, refused.kind_eq]

theorem readTokens_recased {tokens tokens' : List Token}
    (same : List.Forall₂ Token.Recased tokens tokens') :
    (readTokens tokens').mapError ReadError.site = (readTokens tokens).mapError ReadError.site := by
  have start : (Reading.initial 0).Recased (Reading.initial 0) := ⟨rfl, rfl, .within .statement⟩
  exact ((start.after same).push (.refl Token.atEnd)).result

/-- **Letter case.** A text with its reserved words in other ASCII letter cases has
tokens of the same kinds, and the same tokens but for these words. It is read as the
same statements, or refused for the same cause at the same place and for a token of
the same kind. -/
theorem parse_recased (source : String) :
    RecasedText source source ∧ ∀ other, RecasedText source other →
      (lex other).map (·.kind) = (lex source).map (·.kind) ∧
      (∀ (i : Nat) (t : Token), (lex source)[i]? = some t → t.kind ∉ reservedKinds →
        (lex other)[i]? = some t) ∧
      (parse other).mapError ReadError.site = (parse source).mapError ReadError.site := by
  refine ⟨.refl source, fun other recased => ?_⟩
  have same := lex_recased recased
  refine ⟨?_, fun i t found word => ?_, readTokens_recased same⟩
  · symm
    rw [← List.forall₂_eq_eq_eq, List.forall₂_map_left_iff, List.forall₂_map_right_iff]
    exact same.imp fun t t' h => h.kind_eq.symm
  · obtain ⟨inside, rfl⟩ := List.getElem?_eq_some_iff.mp found
    have inside' : i < (lex other).length := same.length_eq ▸ inside
    have kept := (same.get inside inside').kept word
    rw [List.getElem?_eq_getElem inside']
    exact congrArg some kept

/-- A text with reserved words before and behind other tokens, and with two that stand
in a comment and in a name. -/
def casedSource : String := "select Null,tRue from selects -- from\n;SELECT 1from t where \x27"

/-- The same text with the letters of its reserved words in other cases. -/
def recasedSource : String := "SELECT nuLL,TRUE fRom selects -- from\n;seLect 1FROM t WHere \x27"

/-- The gaps of white space in both. -/
def casedGaps : List (List Char) :=
  [[], [' '], [], [], [' '], [' '], [' '], ['\n'], [], [' '], [], [' '], [' '], [' ']]

theorem parse_recased_recasedSource :
    RecasedText casedSource recasedSource ∧
      (lex recasedSource).map (·.kind) = (lex casedSource).map (·.kind) ∧
      (lex casedSource)[6]? = some ⟨.comment, "-- from"⟩ ∧
      (lex recasedSource)[6]? = some ⟨.comment, "-- from"⟩ ∧
      (parse recasedSource).mapError ReadError.site = (parse casedSource).mapError ReadError.site ∧
      parse recasedSource = .error ⟨.trailingTokens, ⟨.reservedWord, "WHere"⟩, 12⟩ := by
  have blank : casedGaps.all (·.all isWhiteSpace) := by decide +kernel
  simp only [List.all_eq_true] at blank
  have recased : RecasedText casedSource recasedSource :=
    ⟨casedGaps, [], lex recasedSource, by decide +kernel, blank, by decide +kernel,
      by decide +kernel, by decide +kernel⟩
  have comment : (lex casedSource)[6]? = some ⟨.comment, "-- from"⟩ := by decide +kernel
  obtain ⟨kinds, kept, read⟩ := (parse_recased casedSource).2 _ recased
  exact ⟨recased, kinds, comment, kept 6 _ comment (by decide), read, by decide +kernel⟩

end SelectLang
