/-! Padding of texts to a width counted in characters. -/
namespace StagedLowering.Text

/-- Adds spaces at the right up to `width` characters. -/
def padRight (width : Nat) (s : String) : String :=
  String.ofList (s.toList ++ List.replicate (width - s.toList.length) ' ')

/-- Adds spaces at the left up to `width` characters. -/
def padLeft (width : Nat) (s : String) : String :=
  String.ofList (List.replicate (width - s.toList.length) ' ' ++ s.toList)

end StagedLowering.Text
