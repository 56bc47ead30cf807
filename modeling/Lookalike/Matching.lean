import Lookalike.Provenance
import Lookalike.Similarity
import Lookalike.Threshold

/-!
# Matching the names of a scope

Every unordered pair of a scope's names is judged once, in the order of the names:
pairs whose lengths rule a match out are pruned, the others are scored, and those
above the threshold are matches, with a common subsequence as evidence.
-/

namespace Lookalike

/-- The text of a name.  Callers may hand in values that are no text and so have no
length. -/
inductive NameText where
  | letters (text : String)
  | unsized (value : Json)
  deriving Inhabited

/-- A name and where it comes from. -/
structure Name where
  text : NameText
  origin : Provenance := .unknown
  deriving Inhabited

namespace Name

/-- A name without a provenance. -/
def ofString (text : String) : Name := { text := .letters text }

/-- A name as it is shown. -/
def display (name : Name) : String :=
  match name.text with
  | .letters text => text
  | .unsized value => value.display

end Name

/-- The names that share a scope, in order. -/
structure Collection where
  scope : Provenance := .unknown
  names : List Name := []
  deriving Inhabited

/-- Two names that are more similar than the threshold allows. -/
structure Match where
  first : Name
  second : Name
  score : Binary64
  evidence : String
  deriving Inhabited

/-- A score as a whole percentage: the product with a hundred, cut off at the point. -/
def wholePercentage (score : Binary64) : Int :=
  (score.scale 100).truncate

/-- The similarity of a match as a whole percentage. -/
def Match.percentage (found : Match) : Int :=
  wholePercentage found.score

/-- A score as a percentage rounded to a whole number, in three columns. -/
def roundedPercentage (score : Binary64) : String :=
  padLeft 3 ((score.scale 100).fixed 0)

/-! ### Pairs -/

/-- All pairs of a list's members in which the first stands before the second. -/
def pairs {Member : Type} : List Member → List (Member × Member)
  | [] => []
  | member :: members => members.map (fun later => (member, later)) ++ pairs members

/-! ### Comparing two texts -/

/-- The outcome of comparing two texts, whatever their score. -/
structure Comparison where
  first : String
  second : String
  score : Binary64
  evidence : String
  threshold : Threshold
  exceeds : Bool

/-- Scores two texts against a threshold. -/
def compareTexts (first second : String) (threshold : Threshold) : Comparison :=
  let score := score first second
  { first := first
    second := second
    score := score
    evidence := commonSubsequence first second
    threshold := threshold
    exceeds := threshold.isExceededBy score }

/-! ### Judging pairs -/

/-- Why names cannot be matched: one of them has no length. -/
structure MatchFault where
  typeName : String
  deriving DecidableEq

/-- What is said about a name without a length. -/
def MatchFault.message (fault : MatchFault) : String :=
  "object of type '" ++ fault.typeName ++ "' has no len()"

/-- The text of a name, if it has a length. -/
def NameText.measured : NameText → Except MatchFault String
  | .letters text => .ok text
  | .unsized value => .error ⟨value.typeName⟩

/-- What became of a pair of names. -/
inductive Verdict where
  | pruned
  | scored
  | matched (found : Match)

namespace Verdict

/-- The match that a pair is, if it is one. -/
def match? : Verdict → Option Match
  | .matched found => some found
  | _ => none

/-- Whether a pair was ruled out by its lengths. -/
def isPruned : Verdict → Bool
  | .pruned => true
  | _ => false

end Verdict

/-- Judges two names whose texts are known. -/
def judgeTexts (threshold : Threshold) (first second : Name) (firstText secondText : String) :
    Verdict :=
  if mayReach firstText.length secondText.length (.float threshold.number) then
    let score := score firstText secondText
    if threshold.isExceededBy score then
      .matched
        { first := first
          second := second
          score := score
          evidence := commonSubsequence firstText secondText }
    else .scored
  else .pruned

/-- Judges a pair of names: both lengths are taken first. -/
def judge (threshold : Threshold) (pair : Name × Name) : Except MatchFault Verdict := do
  let firstText ← pair.1.text.measured
  let secondText ← pair.2.text.measured
  return judgeTexts threshold pair.1 pair.2 firstText secondText

/-- The verdicts on all pairs of a list of names. -/
structure Matching where
  nameCount : Nat
  threshold : Threshold
  verdicts : List Verdict

namespace Matching

/-- The matches, in the order of the pairs. -/
def found (matching : Matching) : List Match :=
  matching.verdicts.filterMap Verdict.match?

/-- How many pairs were ruled out by their lengths. -/
def prunedCount (matching : Matching) : Nat :=
  matching.verdicts.countP Verdict.isPruned

/-- How many pairs were scored. -/
def scoredCount (matching : Matching) : Nat :=
  matching.verdicts.countP fun verdict => !verdict.isPruned

/-- The log line of a match. -/
def matchLine (found : Match) : String :=
  "\"" ++ found.first.display ++ "\" and \"" ++ found.second.display ++ "\" are " ++
    roundedPercentage found.score ++ "% similar (common: \"" ++ found.evidence ++ "\")"

/-- The log line that sums a matching up. -/
def summaryLine (matching : Matching) : String :=
  "Matched " ++ toString matching.nameCount ++ " names: " ++ toString matching.prunedCount ++
    " pairs pruned, " ++ toString matching.scoredCount ++ " scored, " ++
    toString matching.found.length ++ " above " ++ matching.threshold.number.fixed 2

/-- What is logged: a line for each match, then the summary. -/
def log (matching : Matching) : List String :=
  matching.found.map matchLine ++ [matching.summaryLine]

end Matching

/-- Judges every pair of a list of names.  The first name without a length that a pair
meets ends the matching. -/
def matchNames (threshold : Threshold) (names : List Name) : Except MatchFault Matching := do
  let verdicts ← (pairs names).mapM (judge threshold)
  return { nameCount := names.length, threshold := threshold, verdicts := verdicts }

/-! ### Matching scopes -/

/-- Why the names of one scope could not be matched. -/
inductive MatchError where
  | unmatchable (scope : Provenance) (fault : MatchFault)
  /-- A failure that a caller provokes to see that other scopes are not affected. -/
  | injected (qualifiedName : String)

/-- What is said about a scope whose names could not be matched. -/
def MatchError.message : MatchError → String
  | unmatchable scope fault =>
      "Failed to match names in scope " ++ scope.literal ++ ": " ++ fault.message
  | injected qualifiedName => "injected failure in " ++ qualifiedName

/-- Matches the names of one scope. -/
def matchCollection (threshold : Threshold) (collection : Collection) :
    Except MatchError Matching :=
  (matchNames threshold collection.names).mapError (.unmatchable collection.scope)

/-! ### Matchers -/

/-- A matcher for scopes, one after the other, all against the same threshold. -/
structure Matcher where
  threshold : Threshold

namespace Matcher

/-- A matcher with a given threshold. -/
def new (given : Json) : Except ThresholdError Matcher := do
  return { threshold := ← Threshold.ofJson given }

/-- Matches the names of one scope, and gives the matcher back for the next one. -/
def perform (matcher : Matcher) (collection : Collection) :
    Except MatchError Matching × Matcher :=
  (matchCollection matcher.threshold collection, matcher)

/-- What comes of several scopes, one after the other.  A scope that cannot be matched does not
end the work of a matcher. -/
def performAll (matcher : Matcher) : List Collection → List (Except MatchError Matching)
  | [] => []
  | collection :: collections =>
      let (outcome, matcher) := matcher.perform collection
      outcome :: matcher.performAll collections

end Matcher

end Lookalike
