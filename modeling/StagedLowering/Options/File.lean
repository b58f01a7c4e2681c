import StagedLowering.Options.Yaml
import StagedLowering.Text.Utf8

/-! Options from files. -/
namespace StagedLowering

/-- What reading a file gives: its bytes, or why it cannot be read. -/
abbrev FileContent := Except String (List UInt8)

/-- The content as a text. -/
def FileContent.text (c : FileContent) : Except String String := do
  match Text.Utf8.decode? (← c) with
  | some s => .ok s
  | none => .error "stream did not contain valid UTF-8"

/-- Options from the content of the file at `path`. -/
def Options.ofFile (path : String) (c : FileContent) : Checked Options :=
  match c.text with
  | .ok s => Options.ofYaml s path
  | .error cause => .error (.file cause)

end StagedLowering
