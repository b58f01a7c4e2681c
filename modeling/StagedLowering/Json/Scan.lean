import StagedLowering.Json.Basic
import StagedLowering.Json.Numeral

/-! Scanning of JSON text. The result is a tree that keeps, at the place where the text goes wrong, the
fault found there; a typed reader that goes over the tree from left to right therefore meets faults of
the text and values of a wrong shape in the order of the text. -/
namespace StagedLowering.Json

mutual
/-- A scanned value. `bad` is a token that has no value. -/
inductive Scan where
  | null
  | bool (b : Bool)
  | int (n : Int)
  | float (x : Float)
  | str (s : String)
  | bad (fault : TokenFault)
  | arr (items : Items)
  | obj (fields : Fields)

/-- The elements of an array, up to its end or to the fault that stopped the scan. -/
inductive Items where
  | done
  | stop (fault : Fault)
  | cons (item : Scan) (rest : Items)

/-- The fields of an object; a name may be fit to pass over only. `stray` is a value where a name should
stand. -/
inductive Fields where
  | done
  | stop (fault : Fault)
  | stray (value : Scan)
  | cons (name : Except Fault String) (value : Scan) (rest : Fields)
end

instance : Inhabited Scan := ⟨.null⟩

mutual
/-- A value as its own scan. -/
def toScan : Json → Scan
  | .null => .null
  | .bool b => .bool b
  | .int n => .int n
  | .float x => .float x
  | .str s => .str s
  | .arr items => .arr (toItems items)
  | .obj fields => .obj (toFields fields)

def toItems : List Json → Items
  | [] => .done
  | v :: rest => .cons v.toScan (toItems rest)

def toFields : List (String × Json) → Fields
  | [] => .done
  | (k, v) :: rest => .cons (.ok k) v.toScan (toFields rest)
end

def isSpace (c : Char) : Bool := c = ' ' || c = '\n' || c = '\t' || c = '\r'

def skipSpace (s : List Char) : List Char := s.dropWhile isSpace

def hexValue? (c : Char) : Option Nat :=
  if c.isDigit then some (c.toNat - '0'.toNat)
  else if 'a' ≤ c ∧ c ≤ 'f' then some (c.toNat - 'a'.toNat + 10)
  else if 'A' ≤ c ∧ c ≤ 'F' then some (c.toNat - 'A'.toNat + 10)
  else none

/-- The number of four hexadecimal digits. -/
def hexWord? (a b c d : Char) : Option Nat := do
  return (((← hexValue? a) * 16 + (← hexValue? b)) * 16 + (← hexValue? c)) * 16 + (← hexValue? d)

/-- Fewer than four characters are left for four digits: the text ended, unless they take four bytes
all the same. -/
def shortHexFault (s : List Char) : Fault :=
  if (String.ofList s).utf8ByteSize < 4 then .ended else .malformed

def isLowSurrogate (n : Nat) : Bool := 0xDC00 ≤ n && n ≤ 0xDFFF

def isHighSurrogate (n : Nat) : Bool := 0xD800 ≤ n && n ≤ 0xDBFF

/-- A scanned text up to its closing quote: what reads as its characters, and what follows it when it
is passed over. -/
structure TextScan where
  chars : Except Fault (List Char)
  rest : Except Fault (List Char)

namespace TextScan

def fail (f : Fault) : TextScan := ⟨.error f, .error f⟩

def push (c : Char) (t : TextScan) : TextScan := { t with chars := t.chars.map (c :: ·) }

/-- Fit to pass over only. -/
def unreadable (f : Fault) (t : TextScan) : TextScan := { t with chars := .error f }

/-- What follows half a surrogate pair without completing it cannot be read. -/
def after (high : Option Nat) (t : TextScan) : TextScan :=
  match high with
  | none => t
  | some _ => t.unreadable .malformed

end TextScan

/-- The character of a one-letter escape. -/
def simpleEscape? (c : Char) : Option Char :=
  match c with
  | '"' => some '"'
  | '\\' => some '\\'
  | '/' => some '/'
  | 'b' => some (Char.ofNat 0x08)
  | 'f' => some (Char.ofNat 0x0C)
  | 'n' => some '\n'
  | 'r' => some '\r'
  | 't' => some '\t'
  | _ => none

/-- Scans a text after its opening quote. `high` is the first half of a surrogate pair that the text so
far ends with; only the second half may follow it. -/
def scanText (high : Option Nat) : List Char → TextScan
  | [] => .fail .ended
  | '"' :: rest => TextScan.after high ⟨.ok [], .ok rest⟩
  | '\\' :: [] => .fail .ended
  | '\\' :: 'u' :: a :: b :: c :: d :: rest =>
    match hexWord? a b c d, high with
    | none, _ => .fail .malformed
    | some m, some n =>
      if isLowSurrogate m then
        (scanText none rest).push (Char.ofNat (0x10000 + (n - 0xD800) * 0x400 + (m - 0xDC00)))
      else (scanText none rest).unreadable .malformed
    | some m, none =>
      if isLowSurrogate m then (scanText none rest).unreadable .malformed
      else if isHighSurrogate m then scanText (some m) rest
      else (scanText none rest).push (Char.ofNat m)
  | '\\' :: 'u' :: rest => .fail (shortHexFault rest)
  | '\\' :: c :: rest =>
    match simpleEscape? c with
    | some e => TextScan.after high ((scanText none rest).push e)
    | none => .fail .malformed
  | c :: rest =>
    if c.toNat < 0x20 then .fail .malformed
    else TextScan.after high ((scanText none rest).push c)

/-- A scanned part and the text after it; `none` when the scan cannot go on. -/
abbrev Scanned (α : Type) := α × Option (List Char)

def badToken (f : Fault) : Scanned Scan := (.bad (.all f), none)

/-- A word or a number that goes wrong after its first character. -/
def badLiteral (f : TokenFault) : Scanned Scan := (.bad { f with opening := .malformed }, none)

/-- The end of the text where a field should stand. -/
def noField : Fields := .cons (.error .ended) (.bad (.all .ended)) (.stop .ended)

/-- The rest of a word such as `null` after its first letter. -/
def scanWord (v : Scan) : List Char → List Char → Scanned Scan
  | [], s => (v, some s)
  | _ :: _, [] => badLiteral (.all .ended)
  | w :: ws, c :: s => if c = w then scanWord v ws s else badLiteral (.all .malformed)

def scanNumber (negative : Bool) (s : List Char) : Scanned Scan :=
  match numeral negative s with
  | .error f => badLiteral f
  | .ok (t, rest) =>
    match t.value? with
    | some (.int n) => (.int n, some rest)
    | some (.float x) => (.float x, some rest)
    | none => (.bad ⟨.malformed, none, .malformed⟩, some rest)

def scanString (s : List Char) : Scanned Scan :=
  let t := scanText none s
  match t.chars, t.rest with
  | .ok cs, .ok rest => (.str (String.ofList cs), some rest)
  | .error f, .ok rest => (.bad ⟨f, none, f⟩, some rest)
  | .error f, .error g => (.bad ⟨f, some g, f⟩, none)
  | .ok _, .error g => badToken g

mutual
/-- Scans one value. The first argument bounds the number of steps. -/
def scanValue : Nat → List Char → Scanned Scan
  | 0, _ => badToken .malformed
  | n + 1, s =>
    match skipSpace s with
    | [] => badToken .ended
    | c :: s =>
      if c = '"' then scanString s
      else if c = '-' then scanNumber true s
      else if c.isDigit then scanNumber false (c :: s)
      else if c = 'n' then scanWord .null ['u', 'l', 'l'] s
      else if c = 't' then scanWord (.bool true) ['r', 'u', 'e'] s
      else if c = 'f' then scanWord (.bool false) ['a', 'l', 's', 'e'] s
      else if c = '[' then
        match skipSpace s with
        | ']' :: s => (.arr .done, some s)
        | [] => (.arr (.stop .ended), none)
        | s => let (items, rest) := scanItems n s; (.arr items, rest)
      else if c.toNat = 0x7B then
        match skipSpace s with
        | [] => (.obj (.stop .ended), none)
        | d :: s =>
          if d.toNat = 0x7D then (.obj .done, some s)
          else let (fields, rest) := scanFields n (d :: s); (.obj fields, rest)
      else badToken .malformed

/-- Scans the elements of an array from the start of one of them. -/
def scanItems : Nat → List Char → Scanned Items
  | 0, _ => (.stop .malformed, none)
  | n + 1, s =>
    let (v, rest) := scanValue n s
    match rest with
    | none => (.cons v (.stop .malformed), none)
    | some s =>
      match skipSpace s with
      | [] => (.cons v (.stop .ended), none)
      | c :: s =>
        if c = ']' then (.cons v .done, some s)
        else if c = ',' then let (items, rest) := scanItems n s; (.cons v items, rest)
        else (.cons v (.stop .malformed), none)

/-- Scans the fields of an object from the start of a name. -/
def scanFields : Nat → List Char → Scanned Fields
  | 0, _ => (.stop .malformed, none)
  | n + 1, s =>
    match skipSpace s with
    | [] => (noField, none)
    | c :: s =>
      if c = '"' then
        let t := scanText none s
        let name := t.chars.map String.ofList
        match t.rest with
        | .error f => (.cons name (.bad (.all f)) (.stop f), none)
        | .ok s =>
          match skipSpace s with
          | [] => (.cons name (.bad (.all .ended)) (.stop .ended), none)
          | d :: s =>
            if d = ':' then
              let (v, rest) := scanValue n s
              match rest with
              | none => (.cons name v (.stop .malformed), none)
              | some s =>
                match skipSpace s with
                | [] => (.cons name v (.stop .ended), none)
                | e :: s =>
                  if e.toNat = 0x7D then (.cons name v .done, some s)
                  else if e = ',' then
                    let (fields, rest) := scanFields n s
                    (.cons name v fields, rest)
                  else (.cons name v (.stop .malformed), none)
            else (.cons name (.bad (.all .malformed)) (.stop .malformed), none)
      else (.stray (scanValue n (c :: s)).1, none)
end

/-- A scanned text: its value, and whether something other than blanks follows it. -/
structure Document where
  root : Scan
  trailing : Bool

/-- Two steps for each character are enough. -/
def scan (text : String) : Document :=
  let cs := text.toList
  let (root, rest) := scanValue (2 * cs.length + 2) cs
  ⟨root, match rest with | some s => !(skipSpace s).isEmpty | none => false⟩

end StagedLowering.Json
