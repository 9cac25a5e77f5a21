import Gatekeeper.Shrink.Basic
import Gatekeeper.Simulation.Generator
import Gatekeeper.Simulation.Replay

/-!
# Trials

Random lists of operations are replayed one after the other.  The first that
diverges is cut off behind its divergence and shrunk.
-/

namespace Gatekeeper

/-- A list that diverges, what it was shrunk to, and where that diverges. -/
structure Counterexample where
  drawn : List Operation
  shrunk : List Operation
  divergence : Divergence
deriving DecidableEq, Repr

structure TrialReport where
  seed : Option Int
  runs : Nat := 0
  operationsRun : Nat := 0
  counterexample : Option Counterexample := none
  records : List Log.Record := []
deriving DecidableEq, Repr

namespace TrialReport

def passed (r : TrialReport) : Bool := r.counterexample.isNone

def findings (c : Counterexample) : List String :=
  ["", "Divergence found; shrunk " ++ toString c.drawn.length ++ " -> "
      ++ toString c.shrunk.length ++ " operations:"]
    ++ (c.shrunk.map fun op => "  " ++ op.describe)
    ++ [c.divergence.describe]

def summary (r : TrialReport) : String :=
  "\n".intercalate
    (["Model Simulation Report",
      "========================================",
      "Seed: " ++ (match r.seed with | some seed => toString seed | none => "None"),
      "Sequences run: " ++ toString r.runs,
      "Operations run: " ++ toString r.operationsRun]
      ++ (match r.counterexample with
        | none => ["\nStore and model agreed on every sequence."]
        | some c => findings c))

end TrialReport

structure Trials (σ : Type) where
  source : RandomSource σ
  fresh : Store := simulatedStore
  longest : Int := 50
  limit : Int := 12

namespace Trials

variable {σ : Type}

def announcement (count : Nat) : Log.Record :=
  ⟨.info, Shrink.logger, "divergence after " ++ toString count ++ " operations, shrinking"⟩

/-- Shrink a list up to its divergence and replay what is left. -/
def reduce (t : Trials σ) (ops : List Operation) (divergence : Divergence) :
    Except Failure (Counterexample × List Log.Record) := do
  let failing := ops.take (divergence.index + 1)
  match ← Shrink.shrink (diverges t.fresh) t.limit failing with
  | none => throw .cannotShrink
  | some shrunk =>
      match ← replay t.fresh shrunk.operations with
      | none => throw .divergenceLost
      | some last => return (⟨ops, shrunk.operations, last⟩, shrunk.records)

/-- Make so many trials, unless one diverges before. -/
def runFrom (t : Trials σ) (report : TrialReport) :
    (count : Nat) → σ → Except Failure TrialReport
  | 0, _ => .ok report
  | count + 1, state => do
      let (drawn, state) := (Operation.randomList t.source t.longest).run state
      let ops ← drawn
      let report := { report with runs := report.runs + 1 }
      match ← replay t.fresh ops with
      | none =>
          runFrom t { report with operationsRun := report.operationsRun + ops.length } count state
      | some divergence =>
          let steps := divergence.index + 1
          let (counterexample, records) ← t.reduce ops divergence
          return { report with
            operationsRun := report.operationsRun + steps
            counterexample := some counterexample
            records := announcement steps :: records }

/-- Make trials; a negative count is as good as none. -/
def run (t : Trials σ) (seed : Option Int) (count : Int) (state : σ) :
    Except Failure TrialReport :=
  t.runFrom { seed } count.toNat state

end Trials

end Gatekeeper
