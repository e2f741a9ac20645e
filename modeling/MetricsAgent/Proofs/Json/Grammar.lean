import MetricsAgent.Json.Reader

/-!
# The grammar of JSON

When a text writes a document, by the rules of RFC 8259: values with blanks around them, strings with
escapes, numbers with optional fraction and exponent.  Unlike the reader the grammar has no words for
numbers that are not finite.
-/

namespace MetricsAgent.Json

open CharClass

/-! ## Blanks -/

/-- Only blanks. -/
def Blank (cs : List Char) : Prop :=
  ∀ c ∈ cs, isSpace c = true

/-! ## Strings -/

/-- A unit of a pair of surrogates: the first one, or the second one. -/
def IsHighSurrogate (n : Nat) : Prop :=
  0xD800 ≤ n ∧ n < 0xDC00

def IsLowSurrogate (n : Nat) : Prop :=
  0xDC00 ≤ n ∧ n < 0xE000

/-- The characters that stand for the characters of a string. -/
inductive Chars : List Char → List Char → Prop
  | nil : Chars [] []
  | plain {c : Char} {s cs : List Char} (hquote : c ≠ '"') (hescape : c ≠ '\\')
    (hcontrol : 32 ≤ c.toNat) (hrest : Chars s cs) : Chars (c :: s) (c :: cs)
  | escape {e c : Char} {s cs : List Char} (h : escapeChar? e = some c) (hrest : Chars s cs) :
    Chars (c :: s) ('\\' :: e :: cs)
  | unit {u : List Char} {n : Nat} {s cs : List Char} (h : hexUnit? u = some (n, []))
    (hhigh : ¬IsHighSurrogate n) (hlow : ¬IsLowSurrogate n) (hrest : Chars s cs) :
    Chars (Char.ofNat n :: s) ('\\' :: 'u' :: u ++ cs)
  | pair {u v : List Char} {high low : Nat} {s cs : List Char} (hu : hexUnit? u = some (high, []))
    (hv : hexUnit? v = some (low, [])) (hhigh : IsHighSurrogate high) (hlow : IsLowSurrogate low)
    (hrest : Chars s cs) :
    Chars (Char.ofNat (0x10000 + (high - 0xD800) * 1024 + (low - 0xDC00)) :: s)
      ('\\' :: 'u' :: u ++ '\\' :: 'u' :: v ++ cs)

/-! ## Numbers -/

/-- One digit or more. -/
structure Digits (ds : List Char) : Prop where
  ne_nil : ds ≠ []
  digit : ∀ c ∈ ds, isAsciiDigit c = true

/-- The digits before a point: a zero stands in front of no other digit. -/
structure Whole (ds : List Char) : Prop extends Digits ds where
  leading : ∀ ds', ds = '0' :: ds' → ds' = []

/-- The digits behind a point, if there is one. -/
inductive Fraction : Option (List Char) → List Char → Prop
  | absent : Fraction none []
  | present {ds : List Char} (h : Digits ds) : Fraction (some ds) ('.' :: ds)

/-- The exponent, if there is one. -/
inductive Exponent : Option Int → List Char → Prop
  | absent : Exponent none []
  | unsigned {mark : Char} {ds : List Char} (hmark : mark = 'e' ∨ mark = 'E') (h : Digits ds) :
    Exponent (some (digitsValue ds)) (mark :: ds)
  | plus {mark : Char} {ds : List Char} (hmark : mark = 'e' ∨ mark = 'E') (h : Digits ds) :
    Exponent (some (digitsValue ds)) (mark :: '+' :: ds)
  | minus {mark : Char} {ds : List Char} (hmark : mark = 'e' ∨ mark = 'E') (h : Digits ds) :
    Exponent (some (-digitsValue ds)) (mark :: '-' :: ds)

/-- The minus of a negative number. -/
def minus (negative : Bool) : List Char :=
  if negative then ['-'] else []

/-- A number: whole, or with a fraction or an exponent and then taken to the nearest value. -/
inductive NumberText : Json → List Char → Prop
  | int (negative : Bool) {ds : List Char} (h : Whole ds) :
    NumberText (.int (if negative then -(digitsValue ds : Int) else digitsValue ds))
      (minus negative ++ ds)
  | float (negative : Bool) {ds ps es : List Char} {part : Option (List Char)} {k : Option Int}
    (h : Whole ds) (hpart : Fraction part ps) (hexponent : Exponent k es)
    (hany : part.isSome ∨ k.isSome) :
    NumberText (.float (Decimal.toBinary64 negative (digitsValue (ds ++ part.getD []))
      (k.getD 0 - (part.getD []).length))) (minus negative ++ (ds ++ ps ++ es))

/-! ## Values -/

/-- The parts of a text: a value, a value with blanks around it, the items of an array and the
members of an object. -/
inductive Part
  | value (j : Json)
  | element (j : Json)
  | items (js : List Json)
  | members (ms : List (String × Json))

/-- When a text writes a part of a document. -/
inductive Writes : Part → List Char → Prop
  | null : Writes (.value .null) "null".toList
  | true : Writes (.value (.bool true)) "true".toList
  | false : Writes (.value (.bool false)) "false".toList
  | number {j : Json} {cs : List Char} (h : NumberText j cs) : Writes (.value j) cs
  | string {s cs : List Char} (h : Chars s cs) :
    Writes (.value (.string (String.ofList s))) ('"' :: cs ++ ['"'])
  | emptyArray {ws : List Char} (h : Blank ws) : Writes (.value (.array [])) ('[' :: ws ++ [']'])
  | array {js : List Json} {cs : List Char} (h : Writes (.items js) cs) :
    Writes (.value (.array js)) ('[' :: cs ++ [']'])
  | emptyObject {ws : List Char} (h : Blank ws) :
    Writes (.value (.object [])) ('\x7b' :: ws ++ ['\x7d'])
  | object {ms : List (String × Json)} {cs : List Char} (h : Writes (.members ms) cs) :
    Writes (.value (.object ms)) ('\x7b' :: cs ++ ['\x7d'])
  | element {j : Json} {ws cs ws' : List Char} (hbefore : Blank ws) (h : Writes (.value j) cs)
    (hbehind : Blank ws') : Writes (.element j) (ws ++ cs ++ ws')
  | item {j : Json} {cs : List Char} (h : Writes (.element j) cs) : Writes (.items [j]) cs
  | items {j : Json} {js : List Json} {cs ds : List Char} (h : Writes (.element j) cs)
    (hrest : Writes (.items js) ds) : Writes (.items (j :: js)) (cs ++ ',' :: ds)
  | member {k : List Char} {j : Json} {ws ks ws' cs : List Char} (hbefore : Blank ws)
    (hname : Chars k ks) (hbehind : Blank ws') (h : Writes (.element j) cs) :
    Writes (.members [(String.ofList k, j)]) (ws ++ '"' :: ks ++ '"' :: ws' ++ ':' :: cs)
  | members {k : List Char} {j : Json} {ms : List (String × Json)} {ws ks ws' cs ds : List Char}
    (hbefore : Blank ws) (hname : Chars k ks) (hbehind : Blank ws') (h : Writes (.element j) cs)
    (hrest : Writes (.members ms) ds) :
    Writes (.members ((String.ofList k, j) :: ms))
      (ws ++ '"' :: ks ++ '"' :: ws' ++ ':' :: cs ++ ',' :: ds)

/-- A text writes a document. -/
def Text (j : Json) (s : String) : Prop :=
  Writes (.element j) s.toList

end MetricsAgent.Json
