import StagedLowering.Options.Basic
import StagedLowering.Text.Utf8

/-! Options from environment variables. A variable `TENSORVM__GROUP__FIELD` sets a field, and
`TENSORVM__STRICT_MODE` the mode; other variables with that start are errors. -/
namespace StagedLowering.Options

/-- What the names of all variables of the program start with. -/
def variableStart : String := "TENSORVM__"

/-- What follows `start` in `cs`. -/
def dropStart? : List Char → List Char → Option (List Char)
  | [], cs => some cs
  | _ :: _, [] => none
  | a :: start, c :: cs => if a = c then dropStart? start cs else none

/-- The part of a variable's name that says what it sets. -/
def settingOf? (name : String) : Option String :=
  (dropStart? variableStart.toList name.toList).map String.ofList

/-- The parts before and after the first double underscore. -/
def splitAtDouble : List Char → List Char × List Char
  | [] => ([], [])
  | '_' :: '_' :: rest => ([], rest)
  | c :: rest => let (a, b) := splitAtDouble rest; (c :: a, b)

/-- The group and the field that a setting names, in lower case; without a double underscore the field
is empty. -/
def targetOf (setting : String) : String × String :=
  let (group, field) := splitAtDouble (Text.lower setting).toList
  (String.ofList group, String.ofList field)

/-- What may stand in place of a group. -/
def settings : List String := GroupKey.all.map (·.name) ++ [strictPath]

/-- Sets one field of a group from a text. -/
def setField (o : Options) (k : GroupKey) (field value : String) : Checked Options :=
  match k.group.field? field with
  | none => .error (.unknownField field k.name k.group.fieldNames)
  | some f => do
    let v ← f.kind.parse (k.name ++ "." ++ field) value
    return { o with groups := o.groups.set k (f.set (o.groups.get k) v) }

/-- Applies one variable. -/
def applyVariable (o : Options) (name setting value : String) : Checked Options :=
  let (group, field) := targetOf setting
  if group = strictPath ∧ field = "" then do
    let strict ← parseFlag strictPath value
    return { o with strict }.track strictPath (.env name)
  else
    match GroupKey.ofName? group with
    | some k => do return (← o.setField k field value).track (group ++ "." ++ field) (.env name)
    | none => .error (.unknownField group "<root>" settings)

/-- Applies variables in the order given. -/
def applyVariables (o : Options) : List (String × String) → Checked Options
  | [] => .ok o
  | (name, value) :: rest =>
    match settingOf? name with
    | some setting => do applyVariables (← o.applyVariable name setting value) rest
    | none => applyVariables o rest

/-- Options from named texts. Names that do not start as the program's variables do are ignored; the
others apply in the order of their names, whatever order they come in. -/
def ofVariables (vars : List (String × String)) : Checked Options :=
  applyVariables {} (Dict.ofList (vars.filter fun v => (settingOf? v.1).isSome)).entries

/-- The variables of the program as texts. Others are not decoded. -/
def decodeVariables : List (List UInt8 × List UInt8) → Checked (List (String × String))
  | [] => .ok []
  | (name, value) :: rest =>
    match Text.Utf8.decode? name with
    | some name =>
      if (settingOf? name).isSome then
        match Text.Utf8.decode? value with
        | some value => do return (name, value) :: (← decodeVariables rest)
        | none => .error (.invalidValue name (Text.Utf8.decodeLossy value) .notUtf8)
      else decodeVariables rest
    | none =>
      let name := Text.Utf8.decodeLossy name
      if (settingOf? name).isSome then .error (.invalidValue name name .notUtf8)
      else decodeVariables rest

/-- Options from the environment of a process. -/
def ofEnvironment (vars : List (List UInt8 × List UInt8)) : Checked Options := do
  ofVariables (← decodeVariables vars)

end StagedLowering.Options
