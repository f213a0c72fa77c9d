/-
# Theory.JsonReader — `json.loads`

The reader of the standard library, on text: blanks, the three words, numbers, texts with
their escapes, arrays and objects, and besides what JSON has `NaN` and the infinities. An object
is the dictionary of its fields, so the last of two fields with one key stands, in the place of
the first. A text it reads is a list of code points, and what a `\u` names may be a surrogate that
no other one completes. Arrays and objects may lie in each other only so deep.

It descends by fuel, two for each character, and `loads_ne_stuck` says that this is enough. What
`JsonText.encode` writes is read back (`loads_encode`): a value whose objects have each key once,
whose integers are within the digit limit and whose parts are not too deep. The numbers with a
fraction or an exponent are read by a parameter.
-/
import KisAutoTrading.Theory.JsonText

namespace KisAutoTrading.Theory.JsonReader

open JsonText

set_option autoImplicit false

/-- How reading fails. -/
inductive Fault where
  /-- `JSONDecodeError`. -/
  | decodeError
  /-- The `ValueError` of `int` on too many digits. -/
  | valueError
  /-- Arrays and objects are too deep in each other. -/
  | recursionError
  /-- The fuel is used up. -/
  | stuck
  deriving DecidableEq

/-! ## What is read -/

/-- A code point of a `str`: a character, or a surrogate by itself. -/
inductive Code where
  | char (c : Char)
  | lone (unit : Nat)
  deriving DecidableEq

/-- A `str`. -/
abbrev PyText : Type := List Code

def Code.char? : Code → Option Char
  | .char c => some c
  | .lone _ => none

def PyText.ofString (text : String) : PyText := text.toList.map .char

/-- The text, if no surrogate in it is by itself: what can be encoded. -/
def PyText.text? (text : PyText) : Option String := (text.mapM Code.char?).map String.ofList

/-- What `json.loads` returns. -/
inductive PyJson where
  | null
  | bool (value : Bool)
  | int (value : Int)
  | float (value : PyFloat)
  | str (text : PyText)
  | arr (items : List PyJson)
  | obj (fields : List (PyText × PyJson))

namespace PyJson

/-- `value.get(key)`, where the value is a dictionary. -/
def get? (value : PyJson) (key : String) : Option PyJson :=
  match value with
  | .obj fields => fields.lookup (.ofString key)
  | _ => none

mutual

def ofJson : Json → PyJson
  | .null => .null
  | .bool value => .bool value
  | .int value => .int value
  | .float value => .float value
  | .str text => .str (.ofString text)
  | .arr items => .arr (ofItems items)
  | .obj fields => .obj (ofFields fields)

def ofItems : List Json → List PyJson
  | [] => []
  | item :: rest => ofJson item :: ofItems rest

def ofFields : List (String × Json) → List (PyText × PyJson)
  | [] => []
  | (key, value) :: rest => (.ofString key, ofJson value) :: ofFields rest

end

mutual

/-- The value, if all its texts can be encoded. -/
def json? : PyJson → Option Json
  | .null => some .null
  | .bool value => some (.bool value)
  | .int value => some (.int value)
  | .float value => some (.float value)
  | .str text => text.text?.map .str
  | .arr items => (items? items).map .arr
  | .obj fields => (fields? fields).map .obj

def items? : List PyJson → Option (List Json)
  | [] => some []
  | item :: rest => do return (← json? item) :: (← items? rest)

def fields? : List (PyText × PyJson) → Option (List (String × Json))
  | [] => some []
  | (key, value) :: rest => do return (← key.text?, ← json? value) :: (← fields? rest)

end

end PyJson

section PyText

variable {text : PyText} {one other : String}

@[simp] theorem PyText.text?_ofString (one : String) : (PyText.ofString one).text? = some one := by
  have chars (chars : List Char) : (chars.map Code.char).mapM Code.char? = some chars := by
    induction chars with
    | nil => rfl
    | cons c rest ih => simp [List.mapM_cons, Code.char?, ih]
  rw [PyText.text?, PyText.ofString, chars, Option.map_some, String.ofList_toList]

theorem PyText.text?_eq_some : text.text? = some one ↔ text = .ofString one := by
  refine ⟨fun found => ?_, fun same => same ▸ text?_ofString one⟩
  obtain ⟨chars, read, rfl⟩ := Option.map_eq_some_iff.mp found
  rw [PyText.ofString, String.toList_ofList]
  clear found
  induction text generalizing chars with
  | nil =>
      cases read
      rfl
  | cons code rest ih =>
      cases code with
      | lone unit => simp [List.mapM_cons, Code.char?] at read
      | char c =>
          simp only [List.mapM_cons, Code.char?, Option.bind_eq_bind, Option.bind_some] at read
          obtain ⟨more, restRead, same⟩ := Option.bind_eq_some_iff.mp read
          cases same
          rw [List.map_cons, ← ih more restRead]

theorem PyText.ofString_inj : PyText.ofString one = .ofString other ↔ one = other := by
  rw [← text?_eq_some, text?_ofString, Option.some.injEq]

theorem PyText.ofString_eq_nil : PyText.ofString one = [] ↔ one = "" := by
  simp [PyText.ofString]

end PyText

mutual

@[simp] theorem PyJson.json?_ofJson : ∀ value, (PyJson.ofJson value).json? = some value
  | .null => rfl
  | .bool _ => rfl
  | .int _ => rfl
  | .float _ => rfl
  | .str text => by rw [ofJson, json?, PyText.text?_ofString, Option.map_some]
  | .arr items => by rw [ofJson, json?, items?_ofItems items, Option.map_some]
  | .obj fields => by rw [ofJson, json?, fields?_ofFields fields, Option.map_some]

theorem PyJson.items?_ofItems : ∀ items, items? (ofItems items) = some items
  | [] => rfl
  | item :: rest => by
      rw [ofItems, items?, json?_ofJson item, items?_ofItems rest]
      rfl

theorem PyJson.fields?_ofFields : ∀ fields, fields? (ofFields fields) = some fields
  | [] => rfl
  | (key, value) :: rest => by
      rw [ofFields, fields?, PyText.text?_ofString, json?_ofJson value, fields?_ofFields rest]
      rfl

end

theorem PyJson.ofFields_keys (fields : List (String × Json)) :
    (PyJson.ofFields fields).map (·.1) = (fields.map (·.1)).map .ofString := by
  induction fields with
  | nil => rfl
  | cons field rest ih => rw [PyJson.ofFields, List.map_cons, ih, List.map_cons, List.map_cons]

def isBlank (c : Char) : Bool := c == ' ' || c == '\t' || c == '\n' || c == '\r'

def skip (text : List Char) : List Char := text.dropWhile isBlank

/-! ## Texts -/

/-- What is read between the quotes in one step: a character, or the code unit of a `\u`. -/
inductive Piece where
  | char (c : Char)
  | unit (value : Nat)

def unescape (c : Char) : Option Char :=
  [('"', '"'), ('\\', '\\'), ('/', '/'), ('b', '\x08'), ('f', '\x0c'), ('n', '\n'), ('r', '\r'),
    ('t', '\t')].lookup c

/-- The four digits of a `\u`. -/
def readUnit (text : List Char) : Except Fault (Piece × List Char) :=
  if text.length < 4 then .error .decodeError
  else
    match hexFold 0 (text.take 4) with
    | some value => .ok (.unit value, text.drop 4)
    | none => .error .decodeError

def readPiece : List Char → Except Fault (Piece × List Char)
  | [] => .error .decodeError
  | c :: rest =>
      if c = '\\' then
        match rest with
        | [] => .error .decodeError
        | kind :: rest =>
            if kind = 'u' then readUnit rest
            else
              match unescape kind with
              | some meant => .ok (.char meant, rest)
              | none => .error .decodeError
      else if c < ' ' then .error .decodeError
      else .ok (.char c, rest)

def isHighSurrogate (unit : Nat) : Bool := 0xd800 ≤ unit && unit < 0xdc00

def isLowSurrogate (unit : Nat) : Bool := 0xdc00 ≤ unit && unit < 0xe000

/-- The character of a surrogate pair. -/
def joinSurrogates (high low : Nat) : Char :=
  Char.ofNat (0x10000 + (high - 0xd800) * 0x400 + (low - 0xdc00))

/-- The code point a piece is or begins. A high surrogate looks whether a low one follows. -/
def finishPiece : Piece → List Char → Code × List Char
  | .char c, rest => (.char c, rest)
  | .unit unit, rest =>
      if isHighSurrogate unit then
        match readPiece rest with
        | .ok (.unit low, behind) =>
            if isLowSurrogate low then (.char (joinSurrogates unit low), behind)
            else (.lone unit, rest)
        | _ => (.lone unit, rest)
      else if isLowSurrogate unit then (.lone unit, rest)
      else (.char (Char.ofNat unit), rest)

def readCode (text : List Char) : Except Fault (Code × List Char) := do
  let (piece, rest) ← readPiece text
  return finishPiece piece rest

/-- The code points up to the closing quote. -/
def readText : Nat → List Char → Except Fault (PyText × List Char)
  | 0, _ => .error .stuck
  | fuel + 1, text =>
      if text.head? = some '"' then .ok ([], text.tail)
      else do
        let (code, rest) ← readCode text
        let (more, rest) ← readText fuel rest
        return (code :: more, rest)

/-! ## Numbers and words -/

/-- What the interpreter decides: `float` of the text of a number, and how deep arrays and objects
may be in each other, if anything bounds that. One is always read. -/
structure Scanner where
  value : List Char → PyFloat
  levels : Option Nat
  positive : levels ≠ some 0

/-- A zero alone, or digits of which the first is no zero. -/
def readInteger : List Char → Option (List Char × List Char)
  | [] => none
  | c :: rest =>
      if c = '0' then some (['0'], rest)
      else if c.isDigit then some (c :: rest.takeWhile Char.isDigit, rest.dropWhile Char.isDigit)
      else none

/-- A point and digits, or nothing. -/
def readFraction : List Char → List Char × List Char
  | [] => ([], [])
  | c :: rest =>
      if c = '.' ∧ (rest.takeWhile Char.isDigit).isEmpty = false then
        (c :: rest.takeWhile Char.isDigit, rest.dropWhile Char.isDigit)
      else ([], c :: rest)

/-- An `e`, perhaps a sign, and digits, or nothing. -/
def readExponent : List Char → List Char × List Char
  | [] => ([], [])
  | c :: rest =>
      let sign := if rest.head? = some '+' ∨ rest.head? = some '-' then rest.take 1 else []
      let digits := (rest.drop sign.length).takeWhile Char.isDigit
      if (c = 'e' ∨ c = 'E') ∧ digits.isEmpty = false then
        (c :: (sign ++ digits), (rest.drop sign.length).dropWhile Char.isDigit)
      else ([], c :: rest)

/-- What is behind the sign of a number. -/
def readUnsigned (F : Scanner) (sign text : List Char) : Option (Except Fault (PyJson × List Char)) :=
  (readInteger text).map fun (digits, rest) =>
    let (fraction, rest) := readFraction rest
    let (exponent, rest) := readExponent rest
    if fraction.isEmpty && exponent.isEmpty then
      if intMaxStrDigits < digits.length then .error .valueError
      else
        let magnitude : Int := Nat.ofDigitChars 10 digits 0
        .ok (.int (if sign.isEmpty then magnitude else -magnitude), rest)
    else .ok (.float (F.value (sign ++ digits ++ fraction ++ exponent)), rest)

def readNumber (F : Scanner) : List Char → Option (Except Fault (PyJson × List Char))
  | [] => none
  | c :: rest => if c = '-' then readUnsigned F ['-'] rest else readUnsigned F [] (c :: rest)

def words : List (List Char × PyJson) := [
  ("null".toList, .null), ("true".toList, .bool true), ("false".toList, .bool false),
  ("NaN".toList, .float .nan), ("Infinity".toList, .float .posInf),
  ("-Infinity".toList, .float .negInf)]

def readWord (text : List Char) : Except Fault (PyJson × List Char) :=
  match words.find? fun word => word.1.isPrefixOf text with
  | some word => .ok (word.2, text.drop word.1.length)
  | none => .error .decodeError

def readAtom (F : Scanner) (text : List Char) : Except Fault (PyJson × List Char) :=
  (readNumber F text).getD (readWord text)

/-! ## Values -/

/-- `dict` of the fields. -/
def dictOf (fields : List (PyText × PyJson)) : List (PyText × PyJson) :=
  fields.foldl (fun dict field => setEntry dict field.1 field.2) []

/-- The levels that are left inside an array or an object. -/
def enter : Option Nat → Except Fault (Option Nat)
  | some 0 => .error .recursionError
  | levels => .ok (levels.map Nat.pred)

section Values

variable (F : Scanner)

mutual

def readValue : Nat → Option Nat → List Char → Except Fault (PyJson × List Char)
  | 0, _, _ => .error .stuck
  | fuel + 1, levels, text =>
      if text.head? = some '"' then do
        let (codes, rest) ← readText text.length text.tail
        return (.str codes, rest)
      else if text.head? = some '[' then do
        let levels ← enter levels
        let inside := skip text.tail
        if inside.head? = some ']' then return (.arr [], inside.tail)
        else do
          let (items, rest) ← readItems fuel levels inside
          return (.arr items, rest)
      else if text.head? = some '\x7b' then do
        let levels ← enter levels
        let inside := skip text.tail
        if inside.head? = some '\x7d' then return (.obj [], inside.tail)
        else do
          let (fields, rest) ← readFields fuel levels inside
          return (.obj (dictOf fields), rest)
      else readAtom F text

/-- Items up to the closing bracket, one at least. -/
def readItems : Nat → Option Nat → List Char → Except Fault (List PyJson × List Char)
  | 0, _, _ => .error .stuck
  | fuel + 1, levels, text => do
      let (item, rest) ← readValue fuel levels text
      let behind := skip rest
      if behind.head? = some ']' then .ok ([item], behind.tail)
      else if behind.head? = some ',' then do
        let (items, rest) ← readItems fuel levels (skip behind.tail)
        return (item :: items, rest)
      else .error .decodeError

/-- Fields up to the closing brace, one at least. -/
def readFields : Nat → Option Nat → List Char → Except Fault (List (PyText × PyJson) × List Char)
  | 0, _, _ => .error .stuck
  | fuel + 1, levels, text =>
      if text.head? = some '"' then do
        let (key, rest) ← readText text.length text.tail
        let colon := skip rest
        if colon.head? = some ':' then do
          let (value, rest) ← readValue fuel levels (skip colon.tail)
          let behind := skip rest
          if behind.head? = some '\x7d' then .ok ([(key, value)], behind.tail)
          else if behind.head? = some ',' then do
            let (fields, rest) ← readFields fuel levels (skip behind.tail)
            return ((key, value) :: fields, rest)
          else .error .decodeError
        else .error .decodeError
      else .error .decodeError

end

/-- `json.loads`. -/
def loads (text : String) : Except Fault PyJson := do
  let start := skip text.toList
  let (value, rest) ← readValue F (2 * start.length + 1) F.levels start
  if (skip rest).isEmpty then return value else .error .decodeError

end Values

/-! ## Fuel -/

/-- The fuel lasts, and what is left is shorter than the bound. -/
structure Within {α : Type} (bound : Nat) (result : Except Fault (α × List Char)) : Prop where
  notStuck : result ≠ .error .stuck
  shorter : ∀ value rest, result = .ok (value, rest) → rest.length < bound

section Fuel

variable {α β : Type} {bound : Nat}

theorem within_ok {value : α} {rest : List Char} (short : rest.length < bound) :
    Within bound (.ok (value, rest)) := by
  constructor
  · intro same
    cases same
  · intro other left same
    cases same
    exact short

theorem within_error {fault : Fault} (other : fault ≠ .stuck) :
    Within bound (.error fault : Except Fault (α × List Char)) := by
  refine ⟨fun same => other (Except.error.inj same), ?_⟩
  intro value rest same
  cases same

theorem Within.mono {result : Except Fault (α × List Char)} (within : Within bound result)
    {larger : Nat} (below : bound ≤ larger) : Within larger result :=
  ⟨within.notStuck, fun value rest same => (within.shorter value rest same).trans_le below⟩

theorem Within.bind {first : Except Fault (α × List Char)}
    {next : α × List Char → Except Fault (β × List Char)} (within : Within bound first)
    (more : ∀ value rest, rest.length < bound → Within bound (next (value, rest))) :
    Within bound (first >>= next) := by
  cases first with
  | error fault => exact within_error fun same => within.notStuck (congrArg Except.error same)
  | ok read => exact more read.1 read.2 (within.shorter _ _ rfl)

theorem length_skip_le (text : List Char) : (skip text).length ≤ text.length :=
  (List.dropWhile_sublist _).length_le

theorem length_tail_lt {text : List Char} {c : Char} (head : text.head? = some c) :
    text.tail.length < text.length := by
  cases text with
  | nil => cases head
  | cons first rest => simp

theorem readUnit_within (text : List Char) (long : text.length < bound) :
    Within bound (readUnit text) := by
  unfold readUnit
  split
  · exact within_error (by decide)
  · split
    · exact within_ok (by rw [List.length_drop]; omega)
    · exact within_error (by decide)

theorem readPiece_within (text : List Char) : Within text.length (readPiece text) := by
  cases text with
  | nil => exact within_error (by decide)
  | cons c rest =>
      simp only [readPiece]
      split
      · cases rest with
        | nil => exact within_error (by decide)
        | cons kind rest =>
            simp only
            split
            · exact readUnit_within rest (by simp only [List.length_cons]; omega)
            · split
              · exact within_ok (by simp only [List.length_cons]; omega)
              · exact within_error (by decide)
      · split
        · exact within_error (by decide)
        · exact within_ok (by simp)

/-- Nothing is put back but what a high surrogate has looked at. -/
theorem finishPiece_shorter (piece : Piece) {rest : List Char} (short : rest.length < bound) :
    (finishPiece piece rest).2.length < bound := by
  cases piece with
  | char c => exact short
  | unit unit =>
      simp only [finishPiece]
      split
      · have second := readPiece_within rest
        split
        · rename_i low behind read
          split
          · exact (second.shorter _ _ read).trans short
          · exact short
        · exact short
      · split <;> exact short

theorem readCode_within (text : List Char) : Within text.length (readCode text) :=
  (readPiece_within text).bind fun piece _ short => within_ok (finishPiece_shorter piece short)

/-- By induction on the fuel. -/
theorem readText_within {fuel : Nat} {text : List Char} (enough : text.length < fuel) :
    Within text.length (readText fuel text) := by
  induction fuel generalizing text with
  | zero => omega
  | succ fuel ih =>
      simp only [readText]
      split
      · rename_i closed
        exact within_ok (length_tail_lt closed)
      · refine (readCode_within text).bind fun code rest short => ?_
        refine ((ih (by omega)).mono short.le).bind fun more left shorter => ?_
        exact within_ok shorter

theorem readInteger_shorter {text digits rest : List Char}
    (read : readInteger text = some (digits, rest)) : rest.length < text.length := by
  cases text with
  | nil => cases read
  | cons c tail =>
      simp only [readInteger] at read
      have dropped := (List.dropWhile_sublist (l := tail) Char.isDigit).length_le
      split at read
      · cases read
        simp
      · split at read
        · cases read
          simp only [List.length_cons]
          omega
        · cases read

theorem readFraction_le (text : List Char) : (readFraction text).2.length ≤ text.length := by
  cases text with
  | nil => exact le_rfl
  | cons c rest =>
      have dropped := (List.dropWhile_sublist (l := rest) Char.isDigit).length_le
      simp only [readFraction]
      split
      · simp only [List.length_cons]
        omega
      · exact le_rfl

theorem readExponent_le (text : List Char) : (readExponent text).2.length ≤ text.length := by
  cases text with
  | nil => exact le_rfl
  | cons c rest =>
      simp only [readExponent]
      generalize (if rest.head? = some '+' ∨ rest.head? = some '-' then rest.take 1 else []) = sign
      have dropped := (List.dropWhile_sublist (l := rest.drop sign.length) Char.isDigit).length_le
      rw [List.length_drop] at dropped
      split
      · simp only [List.length_cons]
        omega
      · exact le_rfl

variable {F : Scanner}

theorem readUnsigned_within {sign text : List Char} {result : Except Fault (PyJson × List Char)}
    (read : readUnsigned F sign text = some result) : Within text.length result := by
  obtain ⟨⟨digits, rest⟩, number, rfl⟩ := Option.map_eq_some_iff.mp read
  have short := readInteger_shorter number
  have fraction := readFraction_le rest
  have exponent := readExponent_le (readFraction rest).2
  simp only
  split
  · split
    · exact within_error (by decide)
    · exact within_ok (by omega)
  · exact within_ok (by omega)

theorem readNumber_within {text : List Char} {result : Except Fault (PyJson × List Char)}
    (read : readNumber F text = some result) : Within text.length result := by
  cases text with
  | nil => cases read
  | cons c rest =>
      simp only [readNumber] at read
      split at read
      · exact (readUnsigned_within read).mono (by simp)
      · exact readUnsigned_within read

theorem readWord_within (text : List Char) : Within text.length (readWord text) := by
  unfold readWord
  split
  · rename_i word found
    have isPrefix : word.1 <+: text := by simpa using List.find?_some found
    have nonempty : ∀ entry ∈ words, 0 < entry.1.length := by decide
    have some := nonempty word (List.mem_of_find?_eq_some found)
    have long := isPrefix.length_le
    exact within_ok (by rw [List.length_drop]; omega)
  · exact within_error (by decide)

theorem readAtom_within (text : List Char) : Within text.length (readAtom F text) := by
  unfold readAtom
  cases number : readNumber F text with
  | none => exact readWord_within text
  | some result => exact readNumber_within number

theorem enter_within (levels : Option Nat) {next : Option Nat → Except Fault (β × List Char)}
    (more : ∀ inner, Within bound (next inner)) : Within bound (enter levels >>= next) := by
  match levels with
  | none => exact more _
  | some 0 => exact within_error (by decide)
  | some (_ + 1) => exact more _

/-- One more level of each reader, from what the readers do with one fuel less. -/
theorem readValue_within {fuel : Nat}
    (items : ∀ levels, ∀ text : List Char, 2 * text.length + 1 < fuel →
      Within text.length (readItems F fuel levels text))
    (fields : ∀ levels, ∀ text : List Char, 2 * text.length + 1 < fuel →
      Within text.length (readFields F fuel levels text))
    (levels : Option Nat) (text : List Char) (enough : 2 * text.length < fuel + 1) :
    Within text.length (readValue F (fuel + 1) levels text) := by
  simp only [readValue]
  split
  · rename_i quoted
    have short := length_tail_lt quoted
    refine ((readText_within short).mono short.le).bind fun chars rest left => ?_
    exact within_ok left
  split
  · rename_i opened
    have short := length_tail_lt opened
    have inner := length_skip_le text.tail
    refine enter_within levels fun left => ?_
    split
    · rename_i closed
      have closing := length_tail_lt closed
      exact within_ok (by omega)
    · refine ((items left _ (by omega)).mono (by omega : _ ≤ text.length)).bind
        fun value rest left => ?_
      exact within_ok left
  split
  · rename_i opened
    have short := length_tail_lt opened
    have inner := length_skip_le text.tail
    refine enter_within levels fun left => ?_
    split
    · rename_i closed
      have closing := length_tail_lt closed
      exact within_ok (by omega)
    · refine ((fields left _ (by omega)).mono (by omega : _ ≤ text.length)).bind
        fun value rest left => ?_
      exact within_ok left
  · exact readAtom_within text

theorem readItems_within {fuel : Nat}
    (values : ∀ levels, ∀ text : List Char, 2 * text.length < fuel →
      Within text.length (readValue F fuel levels text))
    (items : ∀ levels, ∀ text : List Char, 2 * text.length + 1 < fuel →
      Within text.length (readItems F fuel levels text))
    (levels : Option Nat) (text : List Char) (enough : 2 * text.length + 1 < fuel + 1) :
    Within text.length (readItems F (fuel + 1) levels text) := by
  simp only [readItems]
  refine (values levels text (by omega)).bind fun item rest left => ?_
  dsimp only
  have behind := length_skip_le rest
  split
  · rename_i closed
    have closing := length_tail_lt closed
    exact within_ok (by omega)
  split
  · rename_i comma
    have passed := length_tail_lt comma
    have next := length_skip_le (skip rest).tail
    refine ((items levels _ (by omega)).mono (by omega : _ ≤ text.length)).bind
      fun more rest left => ?_
    exact within_ok left
  · exact within_error (by decide)

theorem readFields_within {fuel : Nat}
    (values : ∀ levels, ∀ text : List Char, 2 * text.length < fuel →
      Within text.length (readValue F fuel levels text))
    (fields : ∀ levels, ∀ text : List Char, 2 * text.length + 1 < fuel →
      Within text.length (readFields F fuel levels text))
    (levels : Option Nat) (text : List Char) (enough : 2 * text.length + 1 < fuel + 1) :
    Within text.length (readFields F (fuel + 1) levels text) := by
  simp only [readFields]
  split
  · rename_i quoted
    have short := length_tail_lt quoted
    refine ((readText_within short).mono short.le).bind fun key rest left => ?_
    dsimp only
    have colonAt := length_skip_le rest
    split
    · rename_i colon
      have passed := length_tail_lt colon
      have value := length_skip_le (skip rest).tail
      refine ((values levels _ (by omega)).mono (by omega : _ ≤ text.length)).bind
        fun item rest left => ?_
      dsimp only
      have behind := length_skip_le rest
      split
      · rename_i closed
        have closing := length_tail_lt closed
        exact within_ok (by omega)
      split
      · rename_i comma
        have passed := length_tail_lt comma
        have next := length_skip_le (skip rest).tail
        refine ((fields levels _ (by omega)).mono (by omega : _ ≤ text.length)).bind
          fun more rest left => ?_
        exact within_ok left
      · exact within_error (by decide)
    · exact within_error (by decide)
  · exact within_error (by decide)

/-- An item is read of the text its list is read of, so a character takes two: by induction on
the fuel, for the three readers together. -/
theorem read_within (fuel : Nat) :
    (∀ levels, ∀ text : List Char, 2 * text.length < fuel →
      Within text.length (readValue F fuel levels text)) ∧
    (∀ levels, ∀ text : List Char, 2 * text.length + 1 < fuel →
      Within text.length (readItems F fuel levels text)) ∧
    (∀ levels, ∀ text : List Char, 2 * text.length + 1 < fuel →
      Within text.length (readFields F fuel levels text)) := by
  induction fuel with
  | zero => exact ⟨fun _ _ => by omega, fun _ _ => by omega, fun _ _ => by omega⟩
  | succ fuel ih =>
      obtain ⟨values, items, fields⟩ := ih
      exact ⟨readValue_within items fields, readItems_within values items,
        readFields_within values fields⟩

/-- The fuel of `loads` lasts. -/
theorem loads_ne_stuck (F : Scanner) (text : String) : loads F text ≠ .error .stuck := by
  have within := (read_within (F := F) (2 * (skip text.toList).length + 1)).1 F.levels
    (skip text.toList) (by omega)
  intro stuck
  simp only [loads] at stuck
  cases read : readValue F (2 * (skip text.toList).length + 1) F.levels (skip text.toList) with
  | error fault =>
      rw [read] at stuck
      exact within.notStuck (read.trans (congrArg Except.error (Except.error.inj stuck)))
  | ok value =>
      simp only [read, bind, Except.bind] at stuck
      split at stuck
      · cases stuck
      · cases stuck

end Fuel

/-! ## Texts are read back -/

section Text

variable (rest : List Char)

theorem readUnit_hexDigits {unit : Nat} (small : unit < 0x10000) :
    readUnit (hexDigits 4 unit ++ rest) = .ok (.unit unit, rest) := by
  have long : ¬ (hexDigits 4 unit ++ rest).length < 4 := by simp
  have digits : hexFold 0 (hexDigits 4 unit) = some unit := by
    have width : 16 ^ 4 = 0x10000 := by norm_num
    rw [hexFold_hexDigits, width, Nat.mul_zero, Nat.zero_add, Nat.mod_eq_of_lt small]
  rw [readUnit, if_neg long, List.take_left' (hexDigits_length 4 unit),
    List.drop_left' (hexDigits_length 4 unit), digits]

theorem readPiece_unicodeEscape {unit : Nat} (small : unit < 0x10000) :
    readPiece (unicodeEscape unit ++ rest) = .ok (.unit unit, rest) := by
  simp [unicodeEscape, readPiece, readUnit_hexDigits rest small]

/-- A short escape. -/
theorem readCode_short {kind c : Char} (notUnit : kind ≠ 'u') (meant : unescape kind = some c) :
    readCode ('\\' :: kind :: rest) = .ok (.char c, rest) := by
  simp [readCode, readPiece, notUnit, meant, finishPiece, bind, Except.bind, pure,
    Except.pure]

/-- A code unit of its own: it is no surrogate, being a character. -/
theorem readCode_unit {c : Char} (small : c.toNat < 0x10000) :
    readCode (unicodeEscape c.toNat ++ rest) = .ok (.char c, rest) := by
  have valid : c.toNat < 0xd800 ∨ 0xdfff < c.toNat := by
    have := c.valid
    simp only [UInt32.isValidChar, Nat.isValidChar] at this
    have same : c.val.toNat = c.toNat := rfl
    omega
  have notHigh : isHighSurrogate c.toNat = false := by
    simp only [isHighSurrogate, Bool.and_eq_false_iff, decide_eq_false_iff_not]
    omega
  have notLow : isLowSurrogate c.toNat = false := by
    simp only [isLowSurrogate, Bool.and_eq_false_iff, decide_eq_false_iff_not]
    omega
  simp [readCode, readPiece_unicodeEscape rest small, finishPiece, notHigh, notLow, bind,
    Except.bind, pure, Except.pure]

/-- A surrogate pair is one character. -/
theorem readCode_pair {c : Char} {high low : Nat} (upper : high < 0x400) (lower : low < 0x400)
    (number : 0x10000 + high * 0x400 + low = c.toNat) :
    readCode (unicodeEscape (0xd800 + high) ++ (unicodeEscape (0xdc00 + low) ++ rest)) =
      .ok (.char c, rest) := by
  have isHigh : isHighSurrogate (0xd800 + high) = true := by
    simp only [isHighSurrogate, Bool.and_eq_true, decide_eq_true_eq]
    omega
  have isLow : isLowSurrogate (0xdc00 + low) = true := by
    simp only [isLowSurrogate, Bool.and_eq_true, decide_eq_true_eq]
    omega
  have joined : joinSurrogates (0xd800 + high) (0xdc00 + low) = c := by
    rw [joinSurrogates, Nat.add_sub_cancel_left, Nat.add_sub_cancel_left, number,
      Char.ofNat_toNat]
  rw [readCode, readPiece_unicodeEscape _ (by omega)]
  simp only [bind, Except.bind, finishPiece, isHigh, if_true,
    readPiece_unicodeEscape rest (show 0xdc00 + low < 0x10000 by omega), isLow, joined, pure,
    Except.pure]

/-- The two halves of a character that needs a pair. -/
theorem surrogates_of_large {c : Char} (large : ¬ c.toNat < 0x10000) :
    (c.toNat - 0x10000) / 0x400 < 0x400 ∧ (c.toNat - 0x10000) % 0x400 < 0x400 ∧
      0x10000 + (c.toNat - 0x10000) / 0x400 * 0x400 + (c.toNat - 0x10000) % 0x400 = c.toNat := by
  have bound : c.toNat < 0x110000 := by
    have := c.valid
    simp only [UInt32.isValidChar, Nat.isValidChar] at this
    have same : c.val.toNat = c.toNat := rfl
    omega
  omega

/-- What is written for a character is read as it, and is not the closing quote. -/
theorem readCode_escapeChar (c : Char) :
    readCode (escapeChar c ++ rest) = .ok (.char c, rest) ∧
      (escapeChar c ++ rest).head? ≠ some '"' := by
  unfold escapeChar
  split
  · rename_i same
    exact ⟨readCode_short rest (by decide) (by rw [same]; decide), by simp⟩
  split
  · rename_i same
    exact ⟨readCode_short rest (by decide) (by rw [same]; decide), by simp⟩
  split
  · rename_i same
    exact ⟨readCode_short rest (by decide) (by rw [same]; decide), by simp⟩
  split
  · rename_i same
    exact ⟨readCode_short rest (by decide) (by rw [same]; decide), by simp⟩
  split
  · rename_i same
    exact ⟨readCode_short rest (by decide) (by rw [same]; decide), by simp⟩
  split
  · rename_i same
    exact ⟨readCode_short rest (by decide) (by rw [same]; decide), by simp⟩
  split
  · rename_i same
    exact ⟨readCode_short rest (by decide) (by rw [same]; decide), by simp⟩
  split
  · rename_i noQuote noBackslash _ _ _ _ _ plain
    refine ⟨?_, by simpa using noQuote⟩
    have printed : ¬ c < ' ' := Char.not_lt.mpr plain.1
    simp [readCode, readPiece, noBackslash, printed, finishPiece, bind, Except.bind, pure,
    Except.pure]
  split
  · rename_i small
    exact ⟨readCode_unit rest small, by simp [unicodeEscape]⟩
  · rename_i large
    refine ⟨?_, by simp [unicodeEscape]⟩
    obtain ⟨upper, lower, number⟩ := surrogates_of_large large
    rw [List.append_assoc]
    exact readCode_pair rest upper lower number

theorem escapeChar_ne_nil (c : Char) : 0 < (escapeChar c).length := by
  have read := (readCode_escapeChar [] c).1
  rw [List.append_nil] at read
  refine List.length_pos_iff.mpr fun empty => ?_
  rw [empty] at read
  cases read

/-- By induction on the characters. -/
theorem readText_escape (chars : List Char) {fuel : Nat} (enough : chars.length < fuel) :
    readText fuel (chars.flatMap escapeChar ++ '"' :: rest) = .ok (chars.map .char, rest) := by
  induction chars generalizing fuel with
  | nil =>
      obtain ⟨fuel, rfl⟩ := Nat.exists_eq_succ_of_ne_zero (Nat.ne_of_gt enough)
      rfl
  | cons c more ih =>
      obtain ⟨fuel, rfl⟩ := Nat.exists_eq_succ_of_ne_zero (Nat.ne_of_gt (Nat.zero_lt_of_lt enough))
      obtain ⟨first, open_⟩ := readCode_escapeChar (more.flatMap escapeChar ++ '"' :: rest) c
      rw [List.flatMap_cons, List.append_assoc, readText, if_neg open_, first]
      simp only [bind, Except.bind]
      rw [ih (by simp only [List.length_cons] at enough; omega)]
      rfl

theorem length_le_flatMap_escapeChar (chars : List Char) :
    chars.length ≤ (chars.flatMap escapeChar).length := by
  induction chars with
  | nil => exact le_rfl
  | cons c more ih =>
      have some := escapeChar_ne_nil c
      rw [List.flatMap_cons, List.length_append, List.length_cons]
      omega

/-- A quoted text is read, with the fuel the readers give it. -/
theorem readText_quote (text : String) :
    readText (quote text ++ rest).length (quote text ++ rest).tail =
      .ok (.ofString text, rest) := by
  have long := length_le_flatMap_escapeChar text.toList
  have body : (quote text ++ rest).tail = text.toList.flatMap escapeChar ++ '"' :: rest := by
    simp [quote, escape]
  rw [body]
  apply readText_escape
  simp only [quote, escape, List.cons_append, List.length_cons, List.length_append]
  omega

end Text

/-! ## Numbers are read back -/

/-- No number goes on with it. -/
def Ends (rest : List Char) : Prop :=
  ∀ c, rest.head? = some c → c.isDigit = false ∧ c ≠ '.' ∧ c ≠ 'e' ∧ c ≠ 'E'

theorem ends_cons {c : Char} (rest : List Char) (noDigit : c.isDigit = false) (noPoint : c ≠ '.')
    (noLower : c ≠ 'e') (noUpper : c ≠ 'E') : Ends (c :: rest) := by
  intro other head
  cases head
  exact ⟨noDigit, noPoint, noLower, noUpper⟩

theorem ends_nil : Ends [] := by
  intro c head
  cases head

section Number

variable {F : Scanner} {rest : List Char} (ends : Ends rest)

include ends

theorem span_digits {digits : List Char} (all : ∀ c ∈ digits, c.isDigit = true) :
    (digits ++ rest).takeWhile Char.isDigit = digits ∧
      (digits ++ rest).dropWhile Char.isDigit = rest := by
  rw [List.takeWhile_append_of_pos all, List.dropWhile_append_of_pos all]
  cases rest with
  | nil => simp
  | cons c more => simp [(ends c rfl).1]

theorem readFraction_ends : readFraction rest = ([], rest) := by
  cases rest with
  | nil => rfl
  | cons c more => simp [readFraction, (ends c rfl).2.1]

theorem readExponent_ends : readExponent rest = ([], rest) := by
  cases rest with
  | nil => rfl
  | cons c more => simp [readExponent, (ends c rfl).2.2.1, (ends c rfl).2.2.2]

omit ends in
/-- Only zero is written with a leading zero. -/
theorem toDigits_zero_head {n : Nat} {more : List Char} (written : Nat.toDigits 10 n = '0' :: more) :
    more = [] := by
  have digits : ∀ c ∈ more, c.isDigit = true := fun c member =>
    Nat.isDigit_of_mem_toDigits (by decide) (by decide) (written ▸ List.mem_cons_of_mem _ member)
  have value : Nat.ofDigitChars 10 more 0 = n := by
    have whole := Nat.ofDigitChars_ten_toDigits (n := n)
    rw [written, Nat.ofDigitChars_cons] at whole
    exact whole
  have bound := readDigits_lt (readDigits_of_isDigit digits 0)
  rw [value] at bound
  by_contra some
  have fits : (Nat.toDigits 10 n).length ≤ more.length :=
    (Nat.length_toDigits_le_iff (by decide) (List.length_pos_iff.mpr some)).mpr
      (by simpa using bound)
  rw [written, List.length_cons] at fits
  omega

theorem readInteger_toString (n : Nat) :
    readInteger ((toString n).toList ++ rest) = some ((toString n).toList, rest) := by
  have digits : ∀ c ∈ (toString n).toList, c.isDigit = true := fun c member =>
    isDigit_of_mem_toString member
  have written : (toString n).toList = Nat.toDigits 10 n := by
    rw [Nat.toString_eq_ofList_toDigits, String.toList_ofList]
  rw [written] at digits ⊢
  cases chars : Nat.toDigits 10 n with
  | nil => exact absurd chars Nat.toDigits_ne_nil
  | cons c more =>
      rw [chars] at digits
      rw [List.cons_append, readInteger]
      by_cases zero : c = '0'
      · subst zero
        obtain rfl := toDigits_zero_head chars
        rw [if_pos rfl, List.nil_append]
      · obtain ⟨taken, dropped⟩ := span_digits ends fun d member =>
          digits d (List.mem_cons_of_mem _ member)
        rw [if_neg zero, if_pos (digits c List.mem_cons_self), taken, dropped]

/-- An integer is read behind its sign. -/
theorem readUnsigned_toString {n : Nat} (short : (toString n).toList.length ≤ intMaxStrDigits)
    (sign : List Char) :
    readUnsigned F sign ((toString n).toList ++ rest) =
      some (.ok (.int (if sign.isEmpty then (n : Int) else -n), rest)) := by
  have value : Nat.ofDigitChars 10 (toString n).toList 0 = n := by
    rw [Nat.toString_eq_ofList_toDigits, String.toList_ofList, Nat.ofDigitChars_ten_toDigits]
  simp only [readUnsigned, readInteger_toString ends, Option.map_some, readFraction_ends ends,
    readExponent_ends ends, List.isEmpty_nil, Bool.and_self, if_true, if_neg (not_lt.mpr short),
    value]

theorem readNumber_toString {value : Int}
    (short : (toString value.natAbs).toList.length ≤ intMaxStrDigits) :
    readNumber F ((toString value).toList ++ rest) = some (.ok (.int value, rest)) := by
  cases value with
  | ofNat n =>
      have read := readUnsigned_toString (F := F) ends short []
      have written : toString (Int.ofNat n) = toString n := rfl
      rw [written]
      cases chars : (toString n).toList with
      | nil =>
          rw [Nat.toString_eq_ofList_toDigits, String.toList_ofList] at chars
          exact absurd chars Nat.toDigits_ne_nil
      | cons c more =>
          have digit : c.isDigit = true :=
            isDigit_of_mem_toString (n := n) (chars ▸ List.mem_cons_self)
          have notSign : c ≠ '-' := by
            rintro rfl
            exact absurd digit (by decide)
          simp only [Int.natAbs_ofNat', chars] at read
          rw [List.cons_append, readNumber, if_neg notSign]
          exact read
  | negSucc n =>
      have read := readUnsigned_toString (F := F) ends short ['-']
      have written : (toString (Int.negSucc n)).toList = '-' :: (toString (n + 1)).toList := by
        have split : toString (Int.negSucc n) = "-" ++ toString (n + 1) := rfl
        rw [split, String.toList_append]
        rfl
      rw [written, List.cons_append, readNumber, if_pos rfl]
      exact read

end Number

/-! ## Values are read back -/

section Written

variable (R : FloatRepr) (F : Scanner)

/-- What is written of the float is read as it. -/
def ReadsBack (value : ℚ) : Prop := ∀ rest, Ends rest →
  readNumber F ((R.text value).toList ++ rest) = some (.ok (.float (.finite value), rest))

def WritableFloat : PyFloat → Prop
  | .finite value => ReadsBack R F value
  | _ => True

mutual

/-- No object has a key twice, no integer is too long, the floats are read back, and no part is
deeper than the levels. -/
def Writable : Option Nat → Json → Prop
  | _, .null => True
  | _, .bool _ => True
  | _, .int value => (toString value.natAbs).toList.length ≤ intMaxStrDigits
  | _, .float value => WritableFloat R F value
  | _, .str _ => True
  | levels, .arr items => levels ≠ some 0 ∧ WritableItems (levels.map Nat.pred) items
  | levels, .obj fields => levels ≠ some 0 ∧ (fields.map (·.1)).Nodup ∧
      WritableFields (levels.map Nat.pred) fields

def WritableItems : Option Nat → List Json → Prop
  | _, [] => True
  | levels, item :: rest => Writable levels item ∧ WritableItems levels rest

def WritableFields : Option Nat → List (String × Json) → Prop
  | _, [] => True
  | levels, (_, value) :: rest => Writable levels value ∧ WritableFields levels rest

end

variable {R F} {levels : Option Nat}

/-! ### Where a value begins -/

theorem skip_cons {c : Char} (rest : List Char) (plain : isBlank c = false) :
    skip (c :: rest) = c :: rest := by
  rw [skip, List.dropWhile_cons_of_neg (by simp [plain])]

theorem readInteger_head {c : Char} {text : List Char} {read : List Char × List Char}
    (found : readInteger (c :: text) = some read) : c.isDigit = true := by
  rw [readInteger] at found
  split at found
  · rename_i zero
    rw [zero]
    decide
  · split at found
    · assumption
    · cases found

theorem readNumber_head {text : List Char} {result : Except Fault (PyJson × List Char)}
    (read : readNumber F text = some result) :
    ∃ c rest, text = c :: rest ∧ (c = '-' ∨ c.isDigit = true) := by
  cases text with
  | nil => cases read
  | cons c rest =>
      refine ⟨c, rest, rfl, ?_⟩
      by_cases sign : c = '-'
      · exact .inl sign
      · rw [readNumber, if_neg sign] at read
        obtain ⟨digits, found, -⟩ := Option.map_eq_some_iff.mp read
        exact .inr (readInteger_head found)

/-- Neither a blank nor one of the marks that begin or end something else. -/
structure Begins (c : Char) : Prop where
  plain : isBlank c = false
  noQuote : c ≠ '"'
  noBracket : c ≠ '['
  noBrace : c ≠ '\x7b'
  noEnd : c ≠ ']'

theorem begins_number {c : Char} (head : c = '-' ∨ c.isDigit = true) : Begins c := by
  rcases head with rfl | digit
  · constructor <;> decide
  · have apart (other : Char) (noDigit : other.isDigit = false) : c ≠ other := by
      rintro rfl
      rw [noDigit] at digit
      cases digit
    refine ⟨?_, apart _ (by decide), apart _ (by decide), apart _ (by decide), apart _ (by decide)⟩
    simp [isBlank, apart ' ' (by decide), apart '\t' (by decide), apart '\n' (by decide),
      apart '\r' (by decide)]

/-- What is read as an atom, behind any fuel. -/
theorem readValue_atom {c : Char} {text : List Char} (begins : Begins c) (fuel : Nat) :
    readValue F (fuel + 1) levels (c :: text) = readAtom F (c :: text) := by
  simp [readValue, begins.noQuote, begins.noBracket, begins.noBrace]

theorem readValue_number {text rest : List Char} {value : PyJson}
    (read : readNumber F text = some (.ok (value, rest))) (fuel : Nat) :
    readValue F (fuel + 1) levels text = .ok (value, rest) := by
  obtain ⟨c, more, rfl, head⟩ := readNumber_head read
  rw [readValue_atom (begins_number head), readAtom, read, Option.getD_some]

/-- A word is no number. -/
theorem readValue_word {word : List Char} {value : PyJson} (member : (word, value) ∈ words)
    (rest : List Char) (fuel : Nat) :
    readValue F (fuel + 1) levels (word ++ rest) = .ok (value, rest) := by
  simp only [words, List.mem_cons, List.not_mem_nil, or_false, Prod.mk.injEq] at member
  rcases member with ⟨rfl, rfl⟩ | ⟨rfl, rfl⟩ | ⟨rfl, rfl⟩ | ⟨rfl, rfl⟩ | ⟨rfl, rfl⟩ | ⟨rfl, rfl⟩ <;>
    exact readValue_atom (by constructor <;> decide) fuel

theorem encodeChars_head {value : Json} (writable : Writable R F levels value) :
    ∃ c more, encodeChars R value = c :: more ∧ isBlank c = false ∧ c ≠ ']' := by
  have number {text : List Char} {result : Except Fault (PyJson × List Char)}
      (read : readNumber F (text ++ []) = some result) :
      ∃ c more, text = c :: more ∧ isBlank c = false ∧ c ≠ ']' := by
    rw [List.append_nil] at read
    obtain ⟨c, more, same, head⟩ := readNumber_head read
    exact ⟨c, more, same, (begins_number head).plain, (begins_number head).noEnd⟩
  cases value with
  | null => exact ⟨_, _, rfl, by decide, by decide⟩
  | bool b => cases b <;> exact ⟨_, _, rfl, by decide, by decide⟩
  | int n =>
      rw [Writable] at writable
      have read := readNumber_toString (F := F) ends_nil writable
      rw [encodeChars]
      exact number read
  | float x =>
      rw [Writable] at writable
      rw [encodeChars]
      cases x with
      | finite q => exact number (writable [] ends_nil)
      | posInf => exact ⟨_, _, rfl, by decide, by decide⟩
      | negInf => exact ⟨_, _, rfl, by decide, by decide⟩
      | nan => exact ⟨_, _, rfl, by decide, by decide⟩
  | str text => exact ⟨'"', _, rfl, by decide, by decide⟩
  | arr items => exact ⟨'[', _, rfl, by decide, by decide⟩
  | obj fields => exact ⟨'\x7b', _, rfl, by decide, by decide⟩

theorem skip_encodeChars {value : Json} (writable : Writable R F levels value) (rest : List Char) :
    skip (encodeChars R value ++ rest) = encodeChars R value ++ rest := by
  obtain ⟨c, more, same, plain, -⟩ := encodeChars_head writable
  rw [same, List.cons_append, skip_cons _ plain]

/-! ### The dictionary of distinct fields -/

theorem foldl_set {fields : List (PyText × PyJson)} (dict : List (PyText × PyJson))
    (distinct : ((dict ++ fields).map (·.1)).Nodup) :
    fields.foldl (fun dict field => setEntry dict field.1 field.2) dict = dict ++ fields := by
  induction fields generalizing dict with
  | nil => simp
  | cons field rest ih =>
      have new : ∀ other ∈ dict, other.1 ≠ field.1 := by
        intro other member same
        rw [List.map_append, List.nodup_append] at distinct
        exact distinct.2.2 _ (List.mem_map_of_mem member) _ (by simp) same
      have moved : dict ++ [(field.1, field.2)] ++ rest = dict ++ field :: rest := by simp
      rw [List.foldl_cons, setEntry_new new, ih _ (by rw [moved]; exact distinct), moved]

/-- The keys that are written are as distinct as they were. -/
theorem dictOf_distinct {fields : List (String × Json)} (distinct : (fields.map (·.1)).Nodup) :
    dictOf (PyJson.ofFields fields) = PyJson.ofFields fields := by
  refine foldl_set [] ?_
  rw [List.nil_append, PyJson.ofFields_keys]
  exact List.Pairwise.map _ (fun _ _ apart same => apart (PyText.ofString_inj.mp same)) distinct

/-! ### The round trip -/

theorem enter_ok (left : levels ≠ some 0) : enter levels = .ok (levels.map Nat.pred) := by
  match levels with
  | none => rfl
  | some 0 => exact absurd rfl left
  | some (_ + 1) => rfl

theorem quote_head (text : String) (rest : List Char) :
    (quote text ++ rest).head? = some '"' := rfl

theorem encodeFields_head {fields : List (String × Json)} (some : fields ≠ []) :
    ∃ more, encodeFields R fields = '"' :: more := by
  cases fields with
  | nil => exact absurd rfl some
  | cons field rest => exact ⟨_, rfl⟩

theorem encodeItems_head {items : List Json} (some : items ≠ [])
    (writable : WritableItems R F levels items) :
    ∃ c more, encodeItems R items = c :: more ∧ isBlank c = false ∧ c ≠ ']' := by
  cases items with
  | nil => exact absurd rfl some
  | cons item rest =>
      rw [WritableItems] at writable
      obtain ⟨c, more, same, plain, noEnd⟩ := encodeChars_head writable.1
      exact ⟨c, _, by rw [encodeItems, same, List.cons_append], plain, noEnd⟩

theorem readValue_str (text : String) (fuel : Nat) (rest : List Char) :
    readValue F (fuel + 1) levels (quote text ++ rest) = .ok (.str (.ofString text), rest) := by
  rw [readValue, if_pos (quote_head text rest), readText_quote rest text]
  rfl

theorem readValue_float {value : PyFloat} (writable : WritableFloat R F value) (fuel : Nat)
    {rest : List Char} (ends : Ends rest) :
    readValue F (fuel + 1) levels (floatChars R value ++ rest) = .ok (.float value, rest) := by
  cases value with
  | finite value => exact readValue_number (writable rest ends) fuel
  | posInf => exact readValue_word (.tail _ (.tail _ (.tail _ (.tail _ (.head _))))) rest fuel
  | negInf =>
      exact readValue_word (.tail _ (.tail _ (.tail _ (.tail _ (.tail _ (.head _)))))) rest fuel
  | nan => exact readValue_word (.tail _ (.tail _ (.tail _ (.head _)))) rest fuel

mutual

/-- **A value is read back from what is written of it**, by recursion on the value. -/
theorem readValue_encode : ∀ value levels, Writable R F levels value → ∀ fuel,
    2 * (encodeChars R value).length < fuel → ∀ rest, Ends rest →
      readValue F fuel levels (encodeChars R value ++ rest) = .ok (.ofJson value, rest)
  | .null, _, _, fuel + 1, _, rest, _ => by
      rw [encodeChars]
      exact readValue_word (by simp [words, PyJson.ofJson]) rest fuel
  | .bool true, _, _, fuel + 1, _, rest, _ => by
      rw [encodeChars, if_pos rfl]
      exact readValue_word (by simp [words, PyJson.ofJson]) rest fuel
  | .bool false, _, _, fuel + 1, _, rest, _ => by
      rw [encodeChars, if_neg (by decide)]
      exact readValue_word (by simp [words, PyJson.ofJson]) rest fuel
  | .int value, _, writable, fuel + 1, _, rest, ends => by
      rw [Writable] at writable
      rw [encodeChars]
      exact readValue_number (readNumber_toString ends writable) fuel
  | .float value, _, writable, fuel + 1, _, rest, ends => by
      rw [Writable] at writable
      rw [encodeChars]
      exact readValue_float writable fuel ends
  | .str text, _, _, fuel + 1, _, rest, _ => by
      rw [encodeChars]
      exact readValue_str text fuel rest
  | .arr [], levels, writable, fuel + 1, _, rest, _ => by
      rw [Writable] at writable
      rw [encodeChars, encodeItems, readValue, enter_ok writable.1]
      rfl
  | .arr (item :: more), levels, writable, fuel + 1, enough, rest, _ => by
      rw [Writable] at writable
      rw [encodeChars] at enough ⊢
      simp only [List.length_cons, List.length_append, List.length_nil] at enough
      obtain ⟨c, tail, same, plain, noEnd⟩ := encodeItems_head (List.cons_ne_nil item more) writable.2
      have inside : skip (encodeItems R (item :: more) ++ ']' :: rest) =
          encodeItems R (item :: more) ++ ']' :: rest := by
        rw [same, List.cons_append, skip_cons _ plain]
      have opened : (encodeItems R (item :: more) ++ ']' :: rest).head? ≠ some ']' := by
        rw [same]
        simpa using noEnd
      have read := readItems_encode (item :: more) (List.cons_ne_nil item more) _ writable.2 fuel
        (by omega) rest
      rw [List.cons_append, List.append_assoc, readValue, enter_ok writable.1]
      simp only [List.head?_cons, List.tail_cons, List.cons_append, List.nil_append, inside,
        bind, Except.bind, if_neg opened, read]
      rfl
  | .obj [], levels, writable, fuel + 1, _, rest, _ => by
      rw [Writable] at writable
      rw [encodeChars, encodeFields, readValue, enter_ok writable.1]
      rfl
  | .obj (field :: more), levels, writable, fuel + 1, enough, rest, _ => by
      rw [Writable] at writable
      rw [encodeChars] at enough ⊢
      simp only [List.length_cons, List.length_append, List.length_nil] at enough
      obtain ⟨tail, same⟩ := encodeFields_head (R := R) (List.cons_ne_nil field more)
      have inside : skip (encodeFields R (field :: more) ++ '\x7d' :: rest) =
          encodeFields R (field :: more) ++ '\x7d' :: rest := by
        rw [same, List.cons_append, skip_cons _ (by decide)]
      have opened : (encodeFields R (field :: more) ++ '\x7d' :: rest).head? ≠ some '\x7d' := by
        rw [same]
        simp
      have read := readFields_encode (field :: more) (List.cons_ne_nil field more) _ writable.2.2 fuel
        (by omega) rest
      rw [List.cons_append, List.append_assoc, readValue, enter_ok writable.1]
      simp only [List.head?_cons, List.tail_cons, List.cons_append, List.nil_append, inside,
        bind, Except.bind, if_neg opened, read, dictOf_distinct writable.2.1]
      rfl

theorem readItems_encode : ∀ items, items ≠ [] → ∀ levels, WritableItems R F levels items → ∀ fuel,
    2 * (encodeItems R items).length + 1 < fuel → ∀ rest,
      readItems F fuel levels (encodeItems R items ++ ']' :: rest) = .ok (PyJson.ofItems items, rest)
  | [item], _, levels, writable, fuel + 1, enough, rest => by
      rw [WritableItems] at writable
      rw [encodeItems] at enough ⊢
      simp only [List.isEmpty_nil, if_true, List.append_nil] at enough ⊢
      have read := readValue_encode item levels writable.1 fuel (by omega) (']' :: rest)
        (ends_cons rest (by decide) (by decide) (by decide) (by decide))
      rw [readItems, read]
      simp [bind, Except.bind, skip_cons rest (show isBlank ']' = false by decide), PyJson.ofItems]
  | item :: next :: more, _, levels, writable, fuel + 1, enough, rest => by
      rw [WritableItems] at writable
      rw [encodeItems] at enough ⊢
      simp only [List.isEmpty_cons, Bool.false_eq_true, if_false, List.length_append,
        List.length_cons, List.append_assoc, List.cons_append] at enough ⊢
      have read := readValue_encode item levels writable.1 fuel (by omega)
        (',' :: (encodeItems R (next :: more) ++ ']' :: rest))
        (ends_cons _ (by decide) (by decide) (by decide) (by decide))
      have others := readItems_encode (next :: more) (List.cons_ne_nil next more) levels writable.2 fuel
        (by omega) rest
      obtain ⟨c, tail, same, plain, -⟩ := encodeItems_head (List.cons_ne_nil next more) writable.2
      have inside : skip (encodeItems R (next :: more) ++ ']' :: rest) =
          encodeItems R (next :: more) ++ ']' :: rest := by
        rw [same, List.cons_append, skip_cons _ plain]
      rw [readItems, read]
      simp only [bind, Except.bind, skip_cons _ (show isBlank ',' = false by decide),
        List.head?_cons, List.tail_cons, inside, others]
      rfl

theorem readFields_encode : ∀ fields, fields ≠ [] → ∀ levels, WritableFields R F levels fields →
    ∀ fuel, 2 * (encodeFields R fields).length + 1 < fuel → ∀ rest,
      readFields F fuel levels (encodeFields R fields ++ '\x7d' :: rest) =
        .ok (PyJson.ofFields fields, rest)
  | [(key, value)], _, levels, writable, fuel + 1, enough, rest => by
      rw [WritableFields] at writable
      rw [encodeFields] at enough ⊢
      simp only [List.isEmpty_nil, if_true, List.append_nil, List.length_append, List.length_cons,
        List.append_assoc, List.cons_append] at enough ⊢
      have named := readText_quote (':' :: (encodeChars R value ++ '\x7d' :: rest)) key
      have read := readValue_encode value levels writable.1 fuel (by omega) ('\x7d' :: rest)
        (ends_cons rest (by decide) (by decide) (by decide) (by decide))
      rw [readFields, if_pos (quote_head key _), named]
      simp [bind, Except.bind, skip_cons _ (show isBlank ':' = false by decide),
        skip_encodeChars writable.1, read, skip_cons _ (show isBlank '\x7d' = false by decide),
        PyJson.ofFields]
  | (key, value) :: next :: more, _, levels, writable, fuel + 1, enough, rest => by
      rw [WritableFields] at writable
      rw [encodeFields] at enough ⊢
      simp only [List.isEmpty_cons, Bool.false_eq_true, if_false, List.length_append,
        List.length_cons, List.append_assoc, List.cons_append] at enough ⊢
      have named := readText_quote
        (':' :: (encodeChars R value ++ ',' :: (encodeFields R (next :: more) ++ '\x7d' :: rest))) key
      have read := readValue_encode value levels writable.1 fuel (by omega)
        (',' :: (encodeFields R (next :: more) ++ '\x7d' :: rest))
        (ends_cons _ (by decide) (by decide) (by decide) (by decide))
      have others := readFields_encode (next :: more) (List.cons_ne_nil next more) levels writable.2 fuel
        (by omega) rest
      obtain ⟨tail, same⟩ := encodeFields_head (R := R) (List.cons_ne_nil next more)
      have inside : skip (encodeFields R (next :: more) ++ '\x7d' :: rest) =
          encodeFields R (next :: more) ++ '\x7d' :: rest := by
        rw [same, List.cons_append, skip_cons _ (by decide)]
      rw [readFields, if_pos (quote_head key _), named]
      simp [bind, Except.bind, skip_cons _ (show isBlank ':' = false by decide),
        skip_encodeChars writable.1, read, skip_cons _ (show isBlank ',' = false by decide),
        inside, others, pure, Except.pure, PyJson.ofFields]

end

/-- `json.loads` reads back what the compact `json.dumps` writes. -/
theorem loads_encode {value : Json} (writable : Writable R F F.levels value) :
    loads F (encode R value) = .ok (.ofJson value) := by
  have start : skip (encodeChars R value) = encodeChars R value := by
    simpa using skip_encodeChars writable []
  have read := readValue_encode value F.levels writable (2 * (encodeChars R value).length + 1)
    (by omega) [] ends_nil
  rw [List.append_nil] at read
  simp only [loads, encode, String.toList_ofList, start, read, bind, Except.bind]
  rfl

end Written

end KisAutoTrading.Theory.JsonReader
