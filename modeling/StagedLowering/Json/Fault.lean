/-! What can be wrong with a JSON text. -/
namespace StagedLowering.Json

/-- Where a text stops being JSON: it ends too early, or something else stands where a value, a mark or
a digit should. -/
inductive Fault where
  | ended
  | malformed
  deriving DecidableEq, Repr

/-- Why a value cannot be read: the text is at fault, or it is JSON of another shape. -/
inductive ReadError where
  | text (fault : Fault)
  | shape
  deriving DecidableEq, Repr

def ReadError.message : ReadError → String
  | .text .ended => "the text ends too early"
  | .text .malformed => "the text is not JSON"
  | .shape => "a value has the wrong shape"

/-- What is wrong with a token, by the way in which it is gone over: when it is read for its value, when
it is passed over, which checks less, and when it stands where only a text or an object may, so that
its first character is enough. -/
structure TokenFault where
  reading : Fault
  passing : Option Fault
  opening : Fault
  deriving DecidableEq, Repr

/-- The same fault in every way. -/
def TokenFault.all (f : Fault) : TokenFault := ⟨f, some f, f⟩

end StagedLowering.Json
