import LoxFront.Proofs.Diagnostics

/-! A sink shared by a host over a whole session: errors recorded by hand, errors pushed as they
are, resets between inputs, and scans of independent sources. Main statement: after any sequence
of these operations, starting from an empty sink, the sink holds exactly what the operations since
the last reset contributed, in order; its flag, its emptiness test and its length agree with that
list, and its report prints one line per error, in the same order. The run is a fold of one step,
so the statement comes from a step lemma and the way the operations since the last reset grow. -/
namespace LoxFront.Diagnostics
open Scanner

/-- What a host does with a sink. -/
inductive Op where
  | record (line : Nat) (message : String)
  | push (e : Error)
  | reset
  | scan (source : String)

def apply (d : Diagnostics) : Op → Diagnostics
  | .record line message => d.record line message
  | .push e => d.push e
  | .reset => d.reset
  | .scan source => (d.scan source).2

namespace Op

/-- What an operation adds to the sink: the lexical error it records, the error it pushes, or the
errors of the source it scans, in order. -/
def contribution : Op → List Error
  | record line message => [Error.lexical line message]
  | push e => [e]
  | reset => []
  | scan source => errorsOf (itemsOf source)

def isReset : Op → Bool
  | reset => true
  | _ => false

end Op

def run (ops : List Op) : Diagnostics := ops.foldl apply {}

def sinceReset (ops : List Op) : List Op := (ops.reverse.takeWhile fun op => !op.isReset).reverse

theorem sinceReset_append_reset (ops : List Op) : sinceReset (ops ++ [.reset]) = [] := by
  simp [sinceReset,Op.isReset]

theorem sinceReset_append {op : Op} (kept : op.isReset = false) (ops : List Op) :
    sinceReset (ops ++ [op]) = sinceReset ops ++ [op] := by
  simp [sinceReset,kept]

theorem apply_errors (d : Diagnostics) (op : Op) :
    (d.apply op).errors = if op.isReset then [] else d.errors ++ op.contribution := by
  cases op with
  | record line message => rfl
  | push e => rfl
  | reset => rfl
  | scan source => simp [apply,Op.contribution,Op.isReset,scan_eq]

/-- A whole run: the sink holds the contributions of the operations since the last reset. -/
theorem run_errors (ops : List Op) : (run ops).errors = (sinceReset ops).flatMap Op.contribution := by
  induction ops using List.reverseRecOn with
  | nil => rfl
  | append_singleton ops op ih =>
    rw [run,List.foldl_append,List.foldl_cons,List.foldl_nil,← run,apply_errors,ih]
    cases reset : op.isReset with
    | true =>
      obtain rfl : op = .reset := by cases op <;> simp_all [Op.isReset]
      simp [sinceReset_append_reset]
    | false => simp [sinceReset_append reset]

theorem observers_agree (d : Diagnostics) :
    d.hadError = !d.isEmpty ∧ d.isEmpty = (d.len == 0) ∧ d.len = d.errors.length := by
  refine ⟨rfl,?_,rfl⟩
  cases d with
  | mk errors => cases errors <;> rfl

/-- A sink shared by any sequence of records, pushes, resets and scans, from a new sink, holds the
contributions of the operations since the last reset, in order; its observers agree with that list,
and its report is one line `[line n] Error: message` per error, in the same order. -/
theorem run_holds_since_reset (ops : List Op) :
    let d := run ops
    d.errors = (sinceReset ops).flatMap Op.contribution ∧
      (d.hadError = !d.isEmpty ∧ d.isEmpty = (d.len == 0) ∧ d.len = d.errors.length) ∧
      d.emit = String.join (((sinceReset ops).flatMap Op.contribution).map fun e =>
        "[line " ++ toString e.line ++ "] Error: " ++ e.message ++ "\n") := by
  intro d
  have held : d.errors = (sinceReset ops).flatMap Op.contribution := run_errors ops
  refine ⟨held,observers_agree d,?_⟩
  rw [emit,held]
  rfl

end LoxFront.Diagnostics
