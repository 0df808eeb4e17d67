import CollectionRunner.TestResult
import Mathlib.Algebra.GroupWithZero.Nat

namespace CollectionRunner.TestResult

variable {r : TestResult} {rs : List TestResult}

/-- What results report together, each kind in the order of the results. -/
def joined (rs : List TestResult) : TestResult where
  outcomes := rs.flatMap (·.outcomes)
  errors := rs.flatMap (·.errors)
  logs := rs.flatMap (·.logs)

/-- Ways to merge results in an order: two at a time, and nothing or one to begin with. -/
inductive Grouping where
  | nothing
  | one (r : TestResult)
  | both (first second : Grouping)

namespace Grouping

def merged : Grouping → TestResult
  | nothing => empty
  | one r => r
  | both first second => first.merged.merge second.merged

end Grouping

/-- A script that reports an error fails although none of its tests does, and of two outcomes of a
name the first counts. -/
example :
    let first : TestResult := { errors := [.runtime "boom"], outcomes := [.pass "status"] }
    let second : TestResult := { outcomes := [.fail "status" "expected 200 but got 404"] }
    let all := [first, second].foldl merge empty
    all.passed = false ∧ all.passedCount = 1 ∧ all.get? "status" = some (.pass "status") := by
  decide

end CollectionRunner.TestResult
