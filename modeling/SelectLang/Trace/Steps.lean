import SelectLang.Query.Descent
import SelectLang.Token.ByteScan
import SelectLang.Trace

/-!
# Traces as they are written

A run writes its records step by step. A step of the scan by offsets that makes a
lexeme writes the record of the token, before that of an error its place, and behind
that of the last token the counts. A step of the descent that completes a statement
writes its record, and a step that refuses a token the record of the error. All other
steps write nothing.

* `ByteScan.notes`, `Descent.notes`: what the next step writes.
* `Trace.written`: what the first so many steps of a run write.

Results:
* `written_add`: what further steps write stands behind it.
-/
namespace SelectLang

namespace Trace

/-- What the first so many steps of a run write, with the states of the run. -/
def written {σ : Type} (notes : σ → List Record) (run : Nat → σ) (steps : Nat) : List Record :=
  (List.range steps).flatMap fun n => notes (run n)

theorem written_one {σ : Type} (notes : σ → List Record) (run : Nat → σ) :
    written notes run 1 = notes (run 0) := by
  simp [written]

theorem written_succ {σ : Type} (notes : σ → List Record) (run : Nat → σ) (steps : Nat) :
    written notes run (steps + 1) = written notes run steps ++ notes (run steps) := by
  simp [written, List.range_succ]

theorem written_add {σ : Type} (notes : σ → List Record) (run : Nat → σ) (m n : Nat) :
    written notes run (m + n) =
      written notes run m ++ written notes (fun k => run (m + k)) n := by
  simp [written, List.range_add, List.flatMap_map]

end Trace

namespace ByteScan

/-- What is written of a lexeme of the text between the two offsets: a fault, and the
token. -/
def noted (s : ByteScan) (kind : String → Token.Kind) (fault : Option LexicalFault) :
    List Trace.Record :=
  match s.literal? with
  | some literal =>
    Trace.ofFault fault ⟨⟨kind literal, literal⟩, s.start⟩ ++
      [Trace.ofToken ⟨kind literal, literal⟩]
  | none => []

def notes (s : ByteScan) : List Trace.Record :=
  match s.control with
  | .doing task =>
    match splitAt? s.source.toList s.current with
    | some (_, left) =>
      match task.act left with
      | .emit kind => s.noted kind none
      | .stop kind fault =>
        s.noted (fun _ => kind) fault ++
          [Trace.ofCounts (s.lexemes.length + 1) s.source.utf8ByteSize]
      | _ => []
    | none => []
  | _ => []

end ByteScan

namespace Descent

/-- What the task writes when it leaves the token: at the end of a statement, that. -/
def Task.completed : Task → List Trace.Record
  | .terminator read done name => [Trace.ofStatement (Stage.built done name) read.length]
  | _ => []

/-- What the task writes with the token under the cursor. -/
def Task.notes (task : Task) (t : Token) (cursor : Nat) : List Trace.Record :=
  match task.act t with
  | .leave _ => task.completed
  | .refuse cause => [Trace.ofError ⟨cause, t, cursor⟩]
  | .take _ | .finish _ => []

def notes (d : Descent) : List Trace.Record :=
  match d.control, d.tokens[d.cursor]? with
  | .doing task, some t => task.notes t d.cursor
  | _, _ => []

theorem notes_doing {d : Descent} {task : Task} {t : Token} (h : d.control = .doing task)
    (found : d.tokens[d.cursor]? = some t) : d.notes = task.notes t d.cursor := by
  simp [notes, h, found]

theorem notes_skipping {d : Descent} {next : Task} (h : d.control = .skipping next) :
    d.notes = [] := by
  simp [notes, h]

end Descent

end SelectLang
