import KeyedText.Decimal.Shortest

/-!
# JSON values

Objects keep the order of their members.  Whole numbers are exact; any other number is held by its
shortest spelling.
-/

namespace KeyedText

/-- A number. -/
inductive JsonNumber where
  /-- A whole number that is not negative. -/
  | natural (value : Nat)
  /-- The negative of a positive whole number. -/
  | negative (value : Nat)
  /-- Any other number, by its spelling. -/
  | decimal (spelling : String)
deriving DecidableEq, Repr

/-- A JSON value. -/
inductive Json where
  | null
  | bool (value : Bool)
  | number (value : JsonNumber)
  | string (value : String)
  | array (elements : List Json)
  | object (members : List (String × Json))
deriving Repr

namespace JsonNumber

/-- The spelling of a decimal: a point among at most sixteen digits and after at most four zeros,
an exponent otherwise. -/
def spelledScaled (number : Decimal.Scaled) : String :=
  let digits := toString number.digits
  let length : Int := digits.length
  let point := length + number.exponent
  let zeros (count : Int) : String := String.ofList (List.replicate count.toNat '0')
  if 0 ≤ number.exponent && point ≤ 16 then digits ++ zeros number.exponent ++ ".0"
  else if 0 < point && point ≤ 16 then
    String.ofList (digits.toList.take point.toNat) ++ "."
      ++ String.ofList (digits.toList.drop point.toNat)
  else if -5 < point && point ≤ 0 then "0." ++ zeros (-point) ++ digits
  else
    let fraction := digits.toList.drop 1
    let mantissa :=
      String.ofList (digits.toList.take 1)
        ++ if fraction.isEmpty then "" else "." ++ String.ofList fraction
    mantissa ++ "e" ++ toString (point - 1)

/-- The spelling of a finite number of double precision. -/
def spelled (value : Float) : String :=
  let bits := value.toBits.toNat
  let size := bits % Nat.pow 2 63
  let sign := if bits / Nat.pow 2 63 == 1 then "-" else ""
  if size == 0 then sign ++ "0.0"
  else sign ++ spelledScaled (Decimal.Binary.ofBits size).shortest

/-- A number of double precision. -/
def ofFloat (value : Float) : JsonNumber :=
  decimal (spelled value)

/-- The text of a number. -/
def text : JsonNumber → String
  | natural value => toString value
  | negative value => "-" ++ toString value
  | decimal spelling => spelling

end JsonNumber

namespace Json

/-- Puts a value for a key into members: in the place of the value that the key has, or at the
end. -/
def putMember (members : List (String × Json)) (key : String) (value : Json) :
    List (String × Json) :=
  if members.any (·.1 == key) then
    members.map fun member => if member.1 == key then (key, value) else member
  else members ++ [(key, value)]

/-- The value that an object has for a key. -/
def member? (value : Json) (key : String) : Option Json :=
  match value with
  | object members => (members.find? (·.1 == key)).map (·.2)
  | _ => none

/-- A key that is put among members has its new value, and any other key the value that it had. -/
theorem member?_putMember
    (members : List (String × Json))
    (key : String)
    (value : Json)
    (other : String) :
    (object (putMember members key value)).member? other =
      if other = key then some value else (object members).member? other := by
  unfold putMember member?
  dsimp only
  split
  · next isThere =>
      split
      · next same =>
          induction members with
          | nil => cases isThere
          | cons member rest inductionHypothesis =>
              by_cases isKey : member.1 = key
              · simp [same, isKey]
              · have isLater : rest.any (·.1 == key) = true := by simpa [isKey] using isThere
                simpa [same, isKey] using inductionHypothesis isLater
      · next different =>
          clear isThere
          induction members with
          | nil => rfl
          | cons member rest inductionHypothesis =>
              by_cases isKey : member.1 = key
              · simpa [isKey, Ne.symm different] using inductionHypothesis
              · by_cases isOther : member.1 = other
                · simp [isOther, different]
                · simpa [isKey, isOther] using inductionHypothesis
  · next isNew =>
      have notThere : members.find? (·.1 == key) = none :=
        List.find?_eq_none.mpr fun member isMember isKey =>
          isNew (List.any_eq_true.mpr ⟨member, isMember, isKey⟩)
      split
      · next same => simp [List.find?_append, same, notThere]
      · next different => simp [List.find?_append, Ne.symm different]

end Json
end KeyedText
