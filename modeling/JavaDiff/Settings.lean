import JavaDiff.Number.Binary

/-!
# Settings

What a comparison reports is up to three settings.  The threshold is kept as it was given; a
comparison uses its effective value, which lies between zero and one.
-/

namespace JavaDiff

/-- The settings of a comparison. -/
structure Settings where
  /-- A method of both revisions counts as modified when the similarity of its texts is below this
  number. -/
  threshold : Single
  /-- Whether a type counts as modified when only its text outside methods differs. -/
  detectMemberChanges : Bool
  /-- Whether an added or removed type is followed by its methods. -/
  expandMembers : Bool
deriving DecidableEq

namespace Settings

/-- The settings under which every difference of a method counts and nothing else is reported. -/
def default : Settings := ⟨.one, false, false⟩

instance : Inhabited Settings := ⟨default⟩

/-- The threshold brought into the range from zero to one.  Without a number it is one. -/
def effectiveThreshold (settings : Settings) : Single :=
  match settings.threshold with
  | .nan => .one
  | threshold =>
    if threshold.isLess .zero then .zero
    else if Binary.one.isLess threshold then .one
    else threshold

/-- The settings with their effective threshold. -/
def normalized (settings : Settings) : Settings :=
  { settings with threshold := settings.effectiveThreshold }

end Settings

end JavaDiff
