import KeyedText.Proofs.Files.Place
import KeyedText.Run.Conversion
import Mathlib.Data.List.Basic

/-!
# Growth of logs

A log only grows: lines are added at its end, each of them ended by a line feed.
The byte of a line feed is part of no other character, so as long as the lines
have no line feed, a log whose last line was ended gains exactly those lines.
-/

namespace KeyedText
namespace Run

/-! ## Lines of bytes -/

/-- The byte of a line feed. -/
def lineFeed : UInt8 := 10

/-- The bytes of a text. -/
def bytesOf (text : String) : List UInt8 :=
  text.toUTF8.data.toList

/-- The lines that line feeds end. -/
def endedLines (bytes : List UInt8) : List (List UInt8) :=
  (bytes.splitOn lineFeed).dropLast

/-- Every line is ended. -/
def Complete (bytes : List UInt8) : Prop :=
  bytes = [] ∨ ∃ front, bytes = front ++ [lineFeed]

/-- Complete lines in a row are complete lines. -/
theorem Complete.append
    {front back : List UInt8}
    (isFront : Complete front)
    (isBack : Complete back) :
    Complete (front ++ back) := by
  rcases isBack with rfl | ⟨more, rfl⟩
  · rwa [List.append_nil]
  · exact .inr ⟨front ++ more, (List.append_assoc _ _ _).symm⟩

/-- What stands behind lines that are ended has its own lines. -/
theorem endedLines_append
    {front : List UInt8}
    (isComplete : Complete front)
    (back : List UInt8) :
    endedLines (front ++ back) = endedLines front ++ endedLines back := by
  rcases isComplete with rfl | ⟨lines, rfl⟩
  · rfl
  · unfold endedLines
    rw [List.append_assoc, List.singleton_append, List.splitOn_append_cons_self,
      List.splitOn_append_cons_self, List.dropLast_append_of_ne_nil (List.splitOn_ne_nil _ _),
      List.dropLast_append_of_ne_nil (List.splitOn_ne_nil _ _), List.splitOn_nil]
    simp

/-- A line that is ended is one line. -/
theorem endedLines_ended
    {line : List UInt8}
    (isLine : lineFeed ∉ line) :
    endedLines (line ++ [lineFeed]) = [line] := by
  unfold endedLines
  rw [List.splitOn_append_cons_self, List.splitOn_eq_singleton isLine]
  rfl

/-! ## Bytes of texts -/

theorem toUTF8_append
    (front back : String) :
    (front ++ back).toUTF8 = front.toUTF8 ++ back.toUTF8 :=
  String.toByteArray_append

theorem bytesOf_append
    (front back : String) :
    bytesOf (front ++ back) = bytesOf front ++ bytesOf back := by
  unfold bytesOf
  rw [toUTF8_append, ByteArray.toList_data_append]

/-- A byte of a character is its code, or one that no small code has. -/
theorem small_or_high_of_mem_utf8EncodeChar
    {character : Char}
    {byte : UInt8}
    (isByte : byte ∈ String.utf8EncodeChar character) :
    byte.toNat = character.toNat ∨ 128 ≤ byte.toNat := by
  unfold String.utf8EncodeChar at isByte
  dsimp only at isByte
  split at isByte
  · next small =>
      rw [List.mem_singleton] at isByte
      left
      rw [isByte, UInt8.toNat_ofNat']
      change character.toNat % 256 = character.toNat
      change character.toNat ≤ 127 at small
      omega
  · right
    split at isByte
    · simp only [List.mem_cons, List.not_mem_nil, or_false] at isByte
      rcases isByte with rfl | rfl <;> rw [UInt8.toNat_ofNat'] <;> omega
    · split at isByte
      · simp only [List.mem_cons, List.not_mem_nil, or_false] at isByte
        rcases isByte with rfl | rfl | rfl <;> rw [UInt8.toNat_ofNat'] <;> omega
      · simp only [List.mem_cons, List.not_mem_nil, or_false] at isByte
        rcases isByte with rfl | rfl | rfl | rfl <;> rw [UInt8.toNat_ofNat'] <;> omega

/-- The bytes of a text without line feeds have none. -/
theorem lineFeed_notMem_bytesOf
    {text : String}
    (isLine : '\n' ∉ text.toList) :
    lineFeed ∉ bytesOf text := by
  intro isByte
  unfold bytesOf at isByte
  rw [String.toUTF8_eq_toByteArray, ← String.utf8Encode_toList, List.utf8Encode,
    List.toList_data_toByteArray] at isByte
  obtain ⟨character, inText, ofCharacter⟩ := List.mem_flatMap.mp isByte
  rcases small_or_high_of_mem_utf8EncodeChar ofCharacter with isCode | isHigh
  · have isFeed : character = '\n' := Char.toNat_inj.mp isCode.symm
    exact isLine (isFeed ▸ inText)
  · exact absurd isHigh (by decide)

/-! ## Lines of a log -/

/-- Lines as a text in which each of them is ended. -/
def ended (lines : List String) : String :=
  String.join (lines.map fun line => line ++ "\n")

theorem ended_cons
    (line : String)
    (lines : List String) :
    ended (line :: lines) = line ++ "\n" ++ ended lines :=
  String.join_cons

/-- Lines in a row are ended in a row. -/
theorem ended_append
    (front back : List String) :
    ended (front ++ back) = ended front ++ ended back := by
  unfold ended
  rw [List.map_append, String.join_append]

theorem bytesOf_ended_cons
    (line : String)
    (lines : List String) :
    bytesOf (ended (line :: lines)) = (bytesOf line ++ [lineFeed]) ++ bytesOf (ended lines) := by
  rw [ended_cons, bytesOf_append, bytesOf_append]
  rfl

/-- Lines that are ended are complete. -/
theorem complete_ended
    (lines : List String) :
    Complete (bytesOf (ended lines)) := by
  induction lines with
  | nil => exact .inl rfl
  | cons line rest inductionHypothesis =>
      rw [bytesOf_ended_cons]
      exact Complete.append (.inr ⟨bytesOf line, rfl⟩) inductionHypothesis

/-- The lines that a log holds are those that were ended in it. -/
theorem endedLines_bytesOf_ended
    {lines : List String}
    (areLines : ∀ line ∈ lines, '\n' ∉ line.toList) :
    endedLines (bytesOf (ended lines)) = lines.map bytesOf := by
  induction lines with
  | nil => rfl
  | cons line rest inductionHypothesis =>
      obtain ⟨isLine, areRest⟩ := List.forall_mem_cons.mp areLines
      rw [bytesOf_ended_cons, endedLines_append (.inr ⟨bytesOf line, rfl⟩),
        endedLines_ended (lineFeed_notMem_bytesOf isLine), inductionHypothesis areRest]
      rfl

/-! ## Growth -/

/-- What a log holds, given what it held and the lines that it gained. -/
def grown (before : Option ByteArray) (lines : List String) : Option ByteArray :=
  if lines.isEmpty then before else some (before.getD .empty ++ (ended lines).toUTF8)

/-- The bytes that a log holds, if there is one. -/
def held (content : Option ByteArray) : List UInt8 :=
  (content.getD .empty).data.toList

/-- A log that grew holds the new lines behind the old ones. -/
theorem held_grown
    (before : Option ByteArray)
    (lines : List String) :
    held (grown before lines) = held before ++ bytesOf (ended lines) := by
  unfold grown
  cases lines with
  | nil => exact (List.append_nil _).symm
  | cons line rest => exact ByteArray.toList_data_append

/-- A log that grows twice grows by all the lines. -/
theorem grown_append
    (before : Option ByteArray)
    (front back : List String) :
    grown (grown before front) back = grown before (front ++ back) := by
  cases front with
  | nil => rfl
  | cons first more =>
      cases back with
      | nil => rw [List.append_nil]; rfl
      | cons second rest =>
          unfold grown
          simp only [List.isEmpty_cons, List.cons_append, Bool.false_eq_true, if_false,
            Option.getD_some]
          rw [← List.cons_append, ended_append, ByteArray.append_assoc]
          rfl

/-- One tree is another but for lines that were added to the log at a path; to add none, the log
is not touched. -/
inductive Logs (path : Path) (before : FileTree) : List String → FileTree → Prop where
  | nothing : Logs path before [] before
  | added
      (lines : List String)
      (nonempty : lines ≠ [])
      (after : FileTree)
      (puts : before.Puts path ((before.content? path).getD .empty ++ (ended lines).toUTF8) after) :
      Logs path before lines after

/-- The log that lines are added to, if any are. -/
def logged (path : Path) (lines : List String) : List Path :=
  if lines.isEmpty then [] else [path]

section Logs

variable
    {path : Path}
    {lines : List String}
    {before after : FileTree}
    (logs : Logs path before lines after)

include logs

/-- A log grew by the lines that were logged. -/
theorem Logs.content?_eq :
    after.content? path = grown (before.content? path) lines := by
  cases logs with
  | nothing => rfl
  | added lines nonempty after puts =>
      unfold grown
      rw [puts.content?_self, if_neg (mt List.isEmpty_iff.mp nonempty)]

/-- Logging keeps all other files, and everything if there are no lines. -/
theorem Logs.keeps :
    before.Keeps after (logged path lines) := by
  cases logs with
  | nothing => exact Tree.Keeps.refl before
  | added lines nonempty after puts =>
      unfold logged
      rw [if_neg (mt List.isEmpty_iff.mp nonempty)]
      exact puts.keeps

theorem Logs.view?_of_not_samePlace
    {other : Path}
    (apart : ¬ before.SamePlace other path) :
    after.view? other = before.view? other := by
  cases logs with
  | nothing => rfl
  | added lines nonempty after puts => exact puts.view?_of_not_samePlace apart

end Logs

/-- A log holds what it held and then some lines, each of them ended; and if every line was ended,
its lines are those it had and then these. -/
structure Gains (before after : Option ByteArray) (lines : List String) : Prop where
  /-- Nothing but the ended lines is added. -/
  isGrown : after = grown before lines
  /-- Every line is a line of the log. -/
  keepsLines : Complete (held before) →
    Complete (held after) ∧
      endedLines (held after) = endedLines (held before) ++ lines.map bytesOf

/-- A log that grew gained the lines that were logged. -/
theorem gains_of_grown
    {before after : Option ByteArray}
    {lines : List String}
    (isGrown : after = grown before lines)
    (areLines : ∀ line ∈ lines, '\n' ∉ line.toList) :
    Gains before after lines := by
  refine ⟨isGrown, fun isComplete => ?_⟩
  rw [isGrown, held_grown]
  refine ⟨isComplete.append (complete_ended lines), ?_⟩
  rw [endedLines_append isComplete, endedLines_bytesOf_ended areLines]

/-- To gain no lines is to stay the same. -/
theorem gains_nothing
    {before after : FileTree}
    {path : Path}
    (same : after.view? path = before.view? path) :
    Gains (before.content? path) (after.content? path) [] :=
  gains_of_grown (Tree.content?_eq_of_view?_eq same) nofun

/-- What is gained twice is gained in a row. -/
theorem Gains.trans
    {before between after : Option ByteArray}
    {front back : List String}
    (first : Gains before between front)
    (second : Gains between after back) :
    Gains before after (front ++ back) := by
  refine ⟨?_, fun isComplete => ?_⟩
  · rw [second.isGrown, first.isGrown, grown_append]
  · obtain ⟨isBetween, ofFront⟩ := first.keepsLines isComplete
    obtain ⟨isAfter, ofBack⟩ := second.keepsLines isBetween
    refine ⟨isAfter, ?_⟩
    rw [ofBack, ofFront, List.map_append, List.append_assoc]

/-! ## Lines for sites -/

/-- A text put on one line breaks no line. -/
theorem lineFeed_notMem_onOneLine
    (text : String) :
    '\n' ∉ (onOneLine text).toList := by
  unfold onOneLine
  rw [String.toList_ofList, List.mem_flatMap]
  rintro ⟨character, -, isSpelled⟩
  split at isSpelled
  · revert isSpelled
    decide
  · next differs =>
      rw [List.mem_singleton] at isSpelled
      exact differs (beq_iff_eq.mpr isSpelled.symm)

theorem lineFeed_notMem_repr
    (number : Nat) :
    '\n' ∉ (toString number).toList := by
  intro isDigit
  have digits := Nat.isDigit_of_mem_toDigits (by decide) (by decide) (Nat.toList_repr ▸ isDigit)
  exact absurd digits (by decide)

/-- The line for a site has no line feed of its own, whatever the text of the site. -/
theorem lineFeed_notMem_reviewLine
    {file : String}
    (isLine : '\n' ∉ file.toList)
    (entry : ReviewEntry) :
    '\n' ∉ (reviewLine file entry).toList := by
  have ofReason : '\n' ∉ entry.reason.name.toList := by
    cases entry.reason <;> decide
  unfold reviewLine
  simp only [String.toList_append, List.mem_append, not_or]
  refine ⟨⟨⟨⟨⟨⟨⟨?_, isLine⟩, ?_⟩, lineFeed_notMem_repr _⟩, ?_⟩, ofReason⟩, ?_⟩,
    lineFeed_notMem_onOneLine _⟩
  all_goals decide

end Run
end KeyedText
