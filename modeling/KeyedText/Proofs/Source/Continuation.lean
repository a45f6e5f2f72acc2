import KeyedText.Proofs.Source.Gap

/-!
# Tokens that stay on a line

The words of type assertions and the mark behind a value that is there go on with an
expression only from the line on which it ends.  Between the expression and such a token
there is a gap without the end of a line.
-/

namespace KeyedText
namespace Source

/-! ## Gaps on one line -/

/-- Whether a text goes on as a scan expects that is about to open or close a comment. -/
def Gap.Expects (text : List Char) : Gap → Prop
  | .blockOpen _ => text.head? = some '*'
  | .blockClose => text.head? = some '/'
  | _ => True

/-- How the front of a text is skipped without the end of a line. -/
def SkipsOnLine (position : Nat) (text : List Char) (reached : GapEnd) : Prop :=
  ∃ skipped,
    text = skipped ++ reached.rest ∧
      reached.stop = position + skipped.length ∧
        ∀ character ∈ skipped, isLineTerminator character = false

/-- A further character that ends no line is skipped. -/
theorem SkipsOnLine.cons
    {position : Nat}
    {character : Char}
    {text : List Char}
    {reached : GapEnd}
    (skips : SkipsOnLine (position + 1) text reached)
    (goesOn : isLineTerminator character = false) :
    SkipsOnLine position (character :: text) reached := by
  obtain ⟨skipped, rfl, stop, unbroken⟩ := skips
  refine ⟨character :: skipped, rfl, ?_, List.forall_mem_cons.mpr ⟨goesOn, unbroken⟩⟩
  rw [stop, List.length_cons]
  omega

/-- A gap in which no line break is noted is skipped without the end of a line. -/
theorem skipsOnLine_skipGap
    (gap : Gap)
    (text : List Char)
    (expected : gap.Expects text)
    {newline : Bool}
    {faults : List Fault}
    {position : Nat}
    (onLine : (skipGap gap newline faults position text).newline = false) :
    newline = false ∧ SkipsOnLine position text (skipGap gap newline faults position text) := by
  induction text generalizing gap newline faults position with
  | nil => exact ⟨onLine, [], rfl, rfl, nofun⟩
  | cons character rest inductionHypothesis =>
      have passes (later : Gap) {newline : Bool} {faults : List Fault}
          (expectedThere : later.Expects rest)
          (onLine : (skipGap later newline faults (position + 1) rest).newline = false) :=
        inductionHypothesis later expectedThere onLine
      unfold skipGap at onLine ⊢
      cases gap with
      | line =>
          dsimp only at onLine ⊢
          split at onLine
          · cases (passes .free trivial onLine).1
          · next goesOn =>
              rw [if_neg goesOn]
              exact (passes .line trivial onLine).imp_right (·.cons (Bool.not_eq_true _ ▸ goesOn))
      | blockOpen start =>
          cases Option.some.inj expected
          exact (passes (.block start) trivial onLine).imp_right (·.cons rfl)
      | block start =>
          dsimp only at onLine ⊢
          split at onLine
          · next closes =>
              rw [if_pos closes]
              rw [Bool.and_eq_true, beq_iff_eq, beq_iff_eq] at closes
              obtain ⟨rfl, follows⟩ := closes
              exact (passes .blockClose follows onLine).imp_right (·.cons rfl)
          · next goesOn =>
              rw [if_neg goesOn]
              obtain ⟨noted, skips⟩ := passes (.block start) trivial onLine
              obtain ⟨before, notHere⟩ := Bool.or_eq_false_iff.mp noted
              exact ⟨before, skips.cons notHere⟩
      | blockClose =>
          cases Option.some.inj expected
          exact (passes .free trivial onLine).imp_right (·.cons rfl)
      | free =>
          dsimp only at onLine ⊢
          split_ifs at onLine ⊢ with opensLine opensBlock opensMarkup ends blank
          · rw [Bool.and_eq_true, beq_iff_eq] at opensLine
            obtain ⟨rfl, -⟩ := opensLine
            exact (passes .line trivial onLine).imp_right (·.cons rfl)
          · rw [Bool.and_eq_true, beq_iff_eq, beq_iff_eq] at opensBlock
            obtain ⟨rfl, follows⟩ := opensBlock
            exact (passes (.blockOpen position) follows onLine).imp_right (·.cons rfl)
          · have isMark : character = '<' ∨ character = '-' := by
              simp only [Bool.or_eq_true, Bool.and_eq_true, beq_iff_eq] at opensMarkup
              exact opensMarkup.imp (·.1) (·.1.1)
            refine (passes .line trivial onLine).imp_right (·.cons ?_)
            rcases isMark with rfl | rfl <;> rfl
          · cases (passes .free trivial onLine).1
          · exact (passes .free trivial onLine).imp_right (·.cons (Bool.not_eq_true _ ▸ ends))
          · exact ⟨onLine, [], rfl, rfl, nofun⟩

/-! ## Where tokens end -/

theorem le_stop_scanName
    (skip : Nat)
    (taken : List Char)
    (escaped : Bool)
    (position : Nat)
    (text : List Char) :
    position ≤ (scanName skip taken escaped position text).stop := by
  induction text generalizing skip taken escaped position with
  | nil => exact Nat.le_refl _
  | cons character rest inductionHypothesis =>
      have passes (skip : Nat) (taken : List Char) (escaped : Bool) :
          position ≤ (scanName skip taken escaped (position + 1) rest).stop :=
        Nat.le_of_succ_le (inductionHypothesis skip taken escaped (position + 1))
      unfold scanName
      split
      · exact passes _ _ _
      · dsimp only
        split
        · split
          · split
            · split
              · exact passes _ _ _
              · exact Nat.le_succ _
            · split
              · exact passes _ _ _
              · exact Nat.le_succ _
          · exact Nat.le_succ _
        · split
          · exact passes _ _ _
          · exact Nat.le_refl _

theorem le_stop_scanStringFrom
    (quote : Char)
    (start skip : Nat)
    (codes : List Nat)
    (faults : List Fault)
    (position : Nat)
    (text : List Char) :
    position ≤ (scanStringFrom quote start skip codes faults position text).stop := by
  induction text generalizing skip codes faults position with
  | nil => exact Nat.le_refl _
  | cons character rest inductionHypothesis =>
      have passes (skip : Nat) (codes : List Nat) (faults : List Fault) :
          position ≤ (scanStringFrom quote start skip codes faults (position + 1) rest).stop :=
        Nat.le_of_succ_le (inductionHypothesis skip codes faults (position + 1))
      unfold scanStringFrom
      split
      · exact passes _ _ _
      · split_ifs
        · exact Nat.le_succ _
        · exact Nat.le_refl _
        · split
          · exact passes _ _ _
          · exact passes _ _ _
          · exact passes _ _ _
          · exact Nat.le_succ _
        · exact passes _ _ _

theorem le_stop_scanNumber
    (position : Nat)
    (text : List Char) :
    position ≤ (scanNumber position text).stop := by
  have ends (big : Bool) (length : Nat) (faults : List Fault) :
      position ≤ (endNumber position text big length faults).stop :=
    Nat.le_add_right _ _
  have ofBase (base : Nat) : position ≤ (scanBased base position text).stop := by
    unfold scanBased
    dsimp only
    split_ifs
    · exact Nat.le_add_right _ _
    · exact ends _ _ _
    · exact ends _ _ _
  have ofExponent (length : Nat) (faults : List Fault) :
      position ≤ (scanExponent position text length faults).stop := by
    unfold scanExponent
    dsimp only
    split
    · split
      · -- With a sign and without one, digits may be missing.
        split <;>
          · split
            · exact Nat.le_add_right _ _
            · exact ends _ _ _
      · exact ends _ _ _
    · exact ends _ _ _
  have ofDecimal : position ≤ (scanDecimal position text).stop := by
    unfold scanDecimal
    dsimp only
    split
    · exact Nat.le_trans (Nat.le_add_right _ _) (Nat.le_succ _)
    · split
      · exact ends _ _ _
      · split
        · exact ofExponent _ _
        · exact ofExponent _ _
  unfold scanNumber
  split
  · split_ifs
    · exact ofBase 16
    · exact ofBase 8
    · exact ofBase 2
    · exact ofDecimal
  · exact ofDecimal

/-- A token does not end before it starts. -/
theorem le_stop_scanToken
    (position : Nat)
    (text : List Char) :
    position ≤ (scanToken position text).stop := by
  unfold scanToken
  split
  · exact Nat.le_refl _
  · split_ifs
    · exact le_stop_scanName _ _ _ _ _
    · exact le_stop_scanNumber _ _
    · exact Nat.le_of_succ_le (le_stop_scanStringFrom _ _ _ _ _ _ _)
    · split
      · exact Nat.le_add_right _ _
      · exact Nat.le_succ _

/-! ## Tokens behind a position -/

/-- Whether a token goes on with an expression only on the line on which this ends. -/
def Token.staysOnLine : Token → Bool
  | .word name => name == "as" || name == "satisfies"
  | .mark .bang => true
  | _ => false

/-- A token behind a gap. -/
structure Continuation where
  /-- Where the token starts. -/
  start : Nat
  /-- Where the token ends. -/
  stop : Nat
deriving DecidableEq, Repr

/-- The token behind a position of a text, if it stays on the line on which the position is. -/
def continuation? (text : List Char) (position : Nat) : Option Continuation :=
  let gap := skipGap .free false [] position (text.drop position)
  let scanned := scanToken gap.stop gap.rest
  if !gap.newline && scanned.token.staysOnLine then some ⟨gap.stop, scanned.stop⟩ else none

/-- A token that stays on the line of a position stands behind it, and no line ends in between. -/
theorem unbroken_of_continuation?
    {text : List Char}
    {position : Nat}
    {token : Continuation}
    (found : continuation? text position = some token) :
    position ≤ token.start ∧ token.start ≤ token.stop ∧
      ∀ character ∈ Span.slice ⟨position, token.start⟩ text,
        isLineTerminator character = false := by
  unfold continuation? at found
  dsimp only at found
  split at found
  · next holds =>
      rw [Bool.and_eq_true, Bool.not_eq_true'] at holds
      obtain ⟨-, skipped, split, stop, unbroken⟩ :=
        skipsOnLine_skipGap .free (text.drop position) trivial holds.1
      cases found
      dsimp only
      have isSkipped : Span.slice ⟨position, position + skipped.length⟩ text = skipped := by
        rw [Span.slice, Nat.add_sub_cancel_left, split, List.take_left]
      refine ⟨?_, le_stop_scanToken _ _, ?_⟩
      · rw [stop]
        exact Nat.le_add_right _ _
      · rw [stop, isSkipped]
        exact unbroken
  · cases found

end Source
end KeyedText
