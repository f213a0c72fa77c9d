/-
# Theory.JsonText — the text of a JSON value

`encode` is `json.dumps` with the compact separators and its default ASCII output. Whatever a
value contains, its text is one line (`encode_oneLine`): a line break inside a text is escaped.
Text without quotes, backslashes and characters outside printable ASCII is written as it is
(`quote_plain`). The decimal writing of a float is a parameter.
-/
import KisAutoTrading.Theory.Digits

namespace KisAutoTrading.Theory.JsonText

set_option autoImplicit false

/-- `float.__repr__` of finite floats; it writes no line break. -/
structure FloatRepr where
  text : ℚ → String
  oneLine : ∀ value, '\n' ∉ (text value).toList

/-- `\u` and four digits. -/
def unicodeEscape (unit : Nat) : List Char := '\\' :: 'u' :: hexDigits 4 unit

/-- What stands for a character between the quotes. -/
def escapeChar (c : Char) : List Char :=
  if c = '"' then ['\\', '"']
  else if c = '\\' then ['\\', '\\']
  else if c = '\n' then ['\\', 'n']
  else if c = '\r' then ['\\', 'r']
  else if c = '\t' then ['\\', 't']
  else if c = '\x0c' then ['\\', 'f']
  else if c = '\x08' then ['\\', 'b']
  else if ' ' ≤ c ∧ c ≤ '~' then [c]
  else if c.toNat < 0x10000 then unicodeEscape c.toNat
  else
    -- a surrogate pair
    unicodeEscape (0xd800 + (c.toNat - 0x10000) / 0x400) ++
      unicodeEscape (0xdc00 + (c.toNat - 0x10000) % 0x400)

def escape (text : String) : List Char := text.toList.flatMap escapeChar

def quote (text : String) : List Char := '"' :: (escape text ++ ['"'])

section Encode

variable (F : FloatRepr)

def floatChars : PyFloat → List Char
  | .finite value => (F.text value).toList
  | .posInf => "Infinity".toList
  | .negInf => "-Infinity".toList
  | .nan => "NaN".toList

mutual

def encodeChars : Json → List Char
  | .null => "null".toList
  | .bool value => (if value then "true" else "false").toList
  | .int value => (toString value).toList
  | .float value => floatChars F value
  | .str text => quote text
  | .arr items => '[' :: (encodeItems items ++ [']'])
  | .obj fields => '\x7b' :: (encodeFields fields ++ ['\x7d'])

/-- The items with commas between them. -/
def encodeItems : List Json → List Char
  | [] => []
  | item :: rest => encodeChars item ++ (if rest.isEmpty then [] else ',' :: encodeItems rest)

def encodeFields : List (String × Json) → List Char
  | [] => []
  | (key, value) :: rest =>
      quote key ++ ':' :: (encodeChars value ++ (if rest.isEmpty then [] else ',' :: encodeFields rest))

end

/-- `json.dumps(value, separators=(",", ":"))`. -/
def encode (value : Json) : String := String.ofList (encodeChars F value)

/-! ## One line -/

theorem unicodeEscape_oneLine (unit : Nat) : '\n' ∉ unicodeEscape unit := by
  simp [unicodeEscape, not_mem_hexDigits (show hexValue '\n' = none by decide)]

theorem escapeChar_oneLine (c : Char) : '\n' ∉ escapeChar c := by
  unfold escapeChar
  split
  · decide
  split
  · decide
  split
  · decide
  rename_i _ _ noBreak
  split
  · decide
  split
  · decide
  split
  · decide
  split
  · decide
  split
  · simpa using Ne.symm noBreak
  split
  · exact unicodeEscape_oneLine _
  · rw [List.mem_append, not_or]
    exact ⟨unicodeEscape_oneLine _, unicodeEscape_oneLine _⟩

theorem quote_oneLine (text : String) : '\n' ∉ quote text := by
  have escaped : '\n' ∉ escape text := by
    intro member
    obtain ⟨c, -, inside⟩ := List.mem_flatMap.mp member
    exact escapeChar_oneLine c inside
  simp [quote, escaped]

theorem toString_int_oneLine (value : Int) : '\n' ∉ (toString value).toList := by
  have natural (n : Nat) : '\n' ∉ (toString n).toList := fun member =>
    absurd (isDigit_of_mem_toString member) (by decide)
  cases value with
  | ofNat n => exact natural n
  | negSucc n =>
      have written : toString (Int.negSucc n) = "-" ++ toString (n + 1) := rfl
      rw [written, String.toList_append, List.mem_append, not_or]
      exact ⟨by decide, natural (n + 1)⟩

theorem floatChars_oneLine (value : PyFloat) : '\n' ∉ floatChars F value := by
  cases value with
  | finite value => exact F.oneLine value
  | posInf =>
      show '\n' ∉ "Infinity".toList
      decide
  | negInf =>
      show '\n' ∉ "-Infinity".toList
      decide
  | nan =>
      show '\n' ∉ "NaN".toList
      decide

mutual

theorem encodeChars_oneLine : ∀ value, '\n' ∉ encodeChars F value
  | .null => by simp only [encodeChars]; decide
  | .bool value => by cases value <;> simp only [encodeChars] <;> decide
  | .int value => by simpa only [encodeChars] using toString_int_oneLine value
  | .float value => by simpa only [encodeChars] using floatChars_oneLine F value
  | .str text => by simpa only [encodeChars] using quote_oneLine text
  | .arr items => by simp [encodeChars, encodeItems_oneLine items]
  | .obj fields => by simp [encodeChars, encodeFields_oneLine fields]

theorem encodeItems_oneLine : ∀ items, '\n' ∉ encodeItems F items
  | [] => by simp [encodeItems]
  | item :: rest => by
      rw [encodeItems, List.mem_append, not_or]
      refine ⟨encodeChars_oneLine item, ?_⟩
      split
      · exact List.not_mem_nil
      · simp [encodeItems_oneLine rest]

theorem encodeFields_oneLine : ∀ fields, '\n' ∉ encodeFields F fields
  | [] => by simp [encodeFields]
  | (key, value) :: rest => by
      rw [encodeFields, List.mem_append, not_or, List.mem_cons, not_or, List.mem_append, not_or]
      refine ⟨quote_oneLine key, by decide, encodeChars_oneLine value, ?_⟩
      split
      · exact List.not_mem_nil
      · simp [encodeFields_oneLine rest]

end

/-- **The text of a value is one line.** -/
theorem encode_oneLine (value : Json) : '\n' ∉ (encode F value).toList := by
  rw [encode, String.toList_ofList]
  exact encodeChars_oneLine F value

/-! ## Plain text -/

/-- A character that stands for itself between quotes. -/
def IsPlain (c : Char) : Prop := c ≠ '"' ∧ c ≠ '\\' ∧ ' ' ≤ c ∧ c ≤ '~'

instance : DecidablePred IsPlain := fun c =>
  inferInstanceAs (Decidable (c ≠ '"' ∧ c ≠ '\\' ∧ ' ' ≤ c ∧ c ≤ '~'))

theorem escapeChar_plain {c : Char} (plain : IsPlain c) : escapeChar c = [c] := by
  obtain ⟨noQuote, noBackslash, low, high⟩ := plain
  have control (other : Char) (below : ¬ ' ' ≤ other) : c ≠ other := fun same => below (same ▸ low)
  rw [escapeChar, if_neg noQuote, if_neg noBackslash, if_neg (control _ (by decide)),
    if_neg (control _ (by decide)), if_neg (control _ (by decide)), if_neg (control _ (by decide)),
    if_neg (control _ (by decide)), if_pos ⟨low, high⟩]

theorem escape_plain {text : String} (plain : ∀ c ∈ text.toList, IsPlain c) :
    escape text = text.toList := by
  rw [escape]
  generalize text.toList = list at plain
  induction list with
  | nil => rfl
  | cons c rest ih =>
      rw [List.flatMap_cons, escapeChar_plain (plain c List.mem_cons_self),
        ih fun other member => plain other (List.mem_cons_of_mem _ member)]
      rfl

theorem quote_plain {text : String} (plain : ∀ c ∈ text.toList, IsPlain c) :
    quote text = '"' :: (text.toList ++ ['"']) := by
  rw [quote, escape_plain plain]

end Encode

end KisAutoTrading.Theory.JsonText
