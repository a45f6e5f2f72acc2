import KeyedText.Glob.Match
import Mathlib.Data.List.Basic

/-!
# Reading patterns

A character that means nothing in patterns stands for itself, so a text of such
characters is read as that text, whatever stands behind it.  Whether the rest can
be read depends on nothing in front of it but a slash in the last place.  A text
without slashes is read as a token for directories only if it is two stars.
-/

namespace KeyedText
namespace Glob

/-- Whether no character of a text means anything but itself in a pattern. -/
def IsLiteral (text : List Char) : Prop :=
  '*' ∉ text ∧ '?' ∉ text ∧ '[' ∉ text

instance (text : List Char) : Decidable (IsLiteral text) :=
  inferInstanceAs (Decidable (_ ∧ _))

/-- Whether a token stands for one given character. -/
def Token.isChar : Token → Bool
  | char _ => true
  | _ => false

@[simp] theorem Token.isChar_char (character : Char) : (char character).isChar = true := rfl

@[simp] theorem Token.isChar_anyChar : anyChar.isChar = false := rfl

@[simp] theorem Token.isChar_within (choices : List Choice) : (within choices).isChar = false := rfl

@[simp] theorem Token.isChar_except (choices : List Choice) : (except choices).isChar = false := rfl

@[simp] theorem Token.isChar_many : many.isChar = false := rfl

@[simp] theorem Token.isChar_deep : deep.isChar = false := rfl

theorem isLiteral_nil : IsLiteral [] :=
  ⟨List.not_mem_nil, List.not_mem_nil, List.not_mem_nil⟩

/-- A text is literal if no character of it is special. -/
theorem isLiteral_cons_iff
    {character : Char}
    {text : List Char} :
    IsLiteral (character :: text) ↔
      (character ≠ '*' ∧ character ≠ '?' ∧ character ≠ '[') ∧ IsLiteral text := by
  simp only [IsLiteral, List.mem_cons, not_or, ne_comm (a := character)]
  tauto

/-- A text is literal if its parts are. -/
theorem isLiteral_append_iff
    {front back : List Char} :
    IsLiteral (front ++ back) ↔ IsLiteral front ∧ IsLiteral back := by
  simp only [IsLiteral, List.mem_append, not_or]
  tauto

/-! ## Characters that stand for themselves -/

section Reading

variable
    (position : Nat)
    (previous : Option Char)
    (tokens : List Token)

theorem readFrom_cons
    {character : Char}
    (literal : character ≠ '*' ∧ character ≠ '?' ∧ character ≠ '[')
    (rest : List Char) :
    readFrom position previous tokens (character :: rest) =
      readFrom (position + 1) (some character) (.char character :: tokens) rest := by
  obtain ⟨noStar, noMark, noBracket⟩ := literal
  rw [readFrom] <;> simp [noStar, noMark, noBracket]

/-- A literal front is read as its characters. -/
theorem readFrom_append
    {front : List Char}
    (literal : IsLiteral front)
    (back : List Char) :
    readFrom position previous tokens (front ++ back) =
      readFrom (position + front.length) (front.getLast?.or previous)
        ((front.map Token.char).reverse ++ tokens) back := by
  induction front generalizing position previous tokens with
  | nil => rfl
  | cons character front inductionHypothesis =>
      obtain ⟨ofFirst, ofRest⟩ := isLiteral_cons_iff.mp literal
      rw [List.cons_append, readFrom_cons position previous tokens ofFirst,
        inductionHypothesis _ _ _ ofRest, List.length_cons, List.map_cons, List.reverse_cons,
        List.append_assoc, List.singleton_append, List.getLast?_cons, Nat.add_assoc,
        Nat.add_comm 1]
      cases front.getLast? <;> rfl

/-- Whether a text can be read depends on what is in front of it only by the last slash there. -/
theorem isOk_readFrom
    (otherPosition : Nat)
    (other : Option Char)
    (otherTokens : List Token)
    (sameSlash : previous.all (· == '/') = other.all (· == '/'))
    (text : List Char) :
    (readFrom position previous tokens text).isOk =
      (readFrom otherPosition other otherTokens text).isOk := by
  have ofOk (tokens : List Token) : (Except.ok tokens : Except Fault _).isOk = true := rfl
  have ofError (fault : Fault) : (Except.error fault : Except _ (List Token)).isOk = false := rfl
  fun_induction readFrom position previous tokens text
    generalizing otherPosition other otherTokens <;>
    rw [readFrom.eq_def otherPosition] <;>
    simp_all only [reduceCtorEq] <;> grind

/-- What was read before stays in front of what is read. -/
theorem reverse_prefix_of_readFrom
    {text : List Char}
    {result : List Token}
    (reads : readFrom position previous tokens text = .ok result) :
    tokens.reverse <+: result := by
  have ofCons {token : Token} {tokens result : List Token}
      (behind : (token :: tokens).reverse <+: result) : tokens.reverse <+: result := by
    rw [List.reverse_cons] at behind
    exact (List.prefix_append _ _).trans behind
  have ofDeep (tokens : List Token) : tokens.reverse <+: (pushDeep tokens).reverse := by
    unfold pushDeep
    split
    · exact List.prefix_refl _
    · exact ofCons (List.prefix_refl _)
  fun_induction readFrom position previous tokens text with
  | case1 position previous tokens => exact Except.ok.inj reads ▸ List.prefix_refl _
  | case4 position previous tokens => exact Except.ok.inj reads ▸ ofDeep tokens
  | case5 position previous tokens _ more _ ih => exact (ofDeep tokens).trans (ih reads)
  | _ =>
      first
        | cases reads
        | next ih => exact ofCons (ih reads)

/-- What is read is made of given characters exactly if the text is, and what was read before. -/
theorem all_isChar_readFrom
    {text : List Char}
    {result : List Token}
    (reads : readFrom position previous tokens text = .ok result) :
    result.all Token.isChar = true ↔ tokens.all Token.isChar = true ∧ IsLiteral text := by
  have noDeep : ∀ tokens, (pushDeep tokens).all Token.isChar = false := by
    intro tokens
    unfold pushDeep
    split <;> rfl
  fun_induction readFrom position previous tokens text with
  | case1 position previous tokens =>
      obtain rfl := Except.ok.inj reads
      simp [isLiteral_nil]
  | case4 position previous tokens =>
      obtain rfl := Except.ok.inj reads
      simp [noDeep, IsLiteral]
  | case5 position previous tokens _ more _ ih =>
      refine (ih reads).trans ?_
      rw [noDeep]
      simp [IsLiteral]
  | case13 position previous tokens character rest noMark _ _ noStar _ noBracket ih =>
      refine (ih reads).trans ?_
      rw [isLiteral_cons_iff]
      exact ⟨fun ⟨before, literal⟩ => ⟨before, ⟨noStar, noMark, noBracket⟩, literal⟩,
        fun ⟨before, _, literal⟩ => ⟨before, literal⟩⟩
  | _ => simp_all [IsLiteral]

/-- Without slashes no token for directories is read but where two stars start a pattern. -/
theorem deep_mem_readFrom_iff
    {text : List Char}
    {result : List Token}
    (noStars : previous.all (· == '/') = true → ¬['*', '*'] <+: text)
    (noSlash : '/' ∉ text)
    (reads : readFrom position previous tokens text = .ok result) :
    .deep ∈ result ↔ .deep ∈ tokens := by
  have notDropped {count : Nat} {rest : List Char} (noSlash : '/' ∉ rest) :
      '/' ∉ rest.drop count :=
    fun member => noSlash (List.mem_of_mem_drop member)
  fun_induction readFrom position previous tokens text with
  | case1 position previous tokens =>
      obtain rfl := Except.ok.inj reads
      exact List.mem_reverse
  | case13 position previous tokens character rest _ _ _ _ _ _ ih =>
      obtain ⟨notHere, notBehind⟩ := not_or.mp (mt List.mem_cons.mpr noSlash)
      have noSlashHere : (some character).all (· == '/') ≠ true :=
        fun isSlash => notHere (beq_iff_eq.mp isSlash).symm
      refine (ih (fun isSlash => absurd isSlash noSlashHere) notBehind reads).trans ?_
      simp
  | _ => simp_all

end Reading

/-! ## Whole patterns -/

section Pattern

variable
    {text : List Char}
    {pattern : Pattern}

/-- A text spells a pattern if it is read as its tokens. -/
theorem ofText_eq_ok_iff :
    Pattern.ofText text = .ok pattern ↔ readFrom 0 none [] text = .ok pattern.tokens := by
  unfold Pattern.ofText
  cases readFrom 0 none [] text with
  | error fault => simp [Except.map]
  | ok tokens =>
      obtain ⟨others⟩ := pattern
      simp [Except.map]

/-- A text that can be read can be read behind other ones that end with a slash. -/
theorem exists_ofText_append
    {front : List Char}
    (literal : IsLiteral front)
    (ends : front.getLast? = some '/')
    (reads : Pattern.ofText text = .ok pattern) :
    ∃ whole, Pattern.ofText (front ++ text) = .ok whole := by
  have isOk : (readFrom 0 none [] (front ++ text)).isOk = true := by
    rw [readFrom_append 0 none [] literal, ends, Option.some_or,
      isOk_readFrom _ (some '/') _ 0 none [] rfl, ofText_eq_ok_iff.mp reads]
    rfl
  cases isRead : readFrom 0 none [] (front ++ text) with
  | ok tokens => exact ⟨⟨tokens⟩, ofText_eq_ok_iff.mpr isRead⟩
  | error fault =>
      rw [isRead] at isOk
      cases isOk

/-- A literal text spells itself. -/
theorem ofText_of_isLiteral
    (literal : IsLiteral text) :
    Pattern.ofText text = .ok ⟨text.map Token.char⟩ := by
  have reads := readFrom_append 0 none [] literal []
  rw [List.append_nil, List.append_nil, readFrom, List.reverse_reverse] at reads
  exact ofText_eq_ok_iff.mpr reads

/-- A pattern that starts with a given character was read from a text that does. -/
theorem head?_of_ofText
    (reads : Pattern.ofText text = .ok pattern)
    {character : Char}
    (starts : pattern.tokens.head? = some (.char character)) :
    text.head? = some character := by
  have ofFirst {position : Nat} {previous : Option Char} {token : Token} {rest : List Char}
      (behind : readFrom position previous [token] rest = .ok pattern.tokens) :
      token = .char character := by
    have front := reverse_prefix_of_readFrom _ _ _ behind
    rw [List.reverse_singleton, List.singleton_prefix_iff_head?_eq_some, starts] at front
    exact (Option.some.inj front).symm
  have isRead := ofText_eq_ok_iff.mp reads
  rw [readFrom.eq_def] at isRead
  split at isRead
  · rw [← Except.ok.inj isRead] at starts
    cases starts
  · cases ofFirst isRead
  · cases isRead
  · rw [Option.all_none, if_pos rfl] at isRead
    split at isRead
    · rw [← Except.ok.inj isRead] at starts
      cases starts
    · cases ofFirst isRead
    · cases isRead
  · cases ofFirst isRead
  · split at isRead
    · cases isRead
    · cases ofFirst isRead
  · split at isRead
    · cases isRead
    · cases ofFirst isRead
  · rw [Token.char.inj (ofFirst isRead)]
    rfl

/-- Two stars by themselves stand for folders. -/
theorem ofText_stars :
    Pattern.ofText ['*', '*'] = .ok ⟨[.deep]⟩ := by
  rw [ofText_eq_ok_iff, readFrom, Option.all_none, if_pos rfl]
  · rfl

/-- A pattern has a literal text if all its tokens are characters. -/
theorem literal?_eq_some_iff :
    pattern.literal? = some text ↔ pattern.tokens = text.map Token.char := by
  obtain ⟨tokens⟩ := pattern
  unfold Pattern.literal?
  dsimp only
  induction tokens generalizing text with
  | nil => simp [eq_comm]
  | cons token tokens inductionHypothesis =>
      rw [List.mapM_cons]
      cases token with
      | char character =>
          cases text <;> simp [Option.bind_eq_some_iff, inductionHypothesis, and_comm]
      | _ => cases text <;> simp

/-- A pattern spells a text out exactly if it was read from the text, and the text means nothing
but itself. -/
theorem literal?_of_ofText
    (reads : Pattern.ofText text = .ok pattern) :
    pattern.literal? = if IsLiteral text then some text else none := by
  have ofChars := all_isChar_readFrom 0 none [] (ofText_eq_ok_iff.mp reads)
  split
  · next literal =>
      obtain rfl := Except.ok.inj (reads.symm.trans (ofText_of_isLiteral literal))
      exact literal?_eq_some_iff.mpr rfl
  · next wild =>
      rw [Option.eq_none_iff_forall_ne_some]
      intro other isOther
      refine wild (ofChars.mp ?_).2
      rw [literal?_eq_some_iff.mp isOther]
      simp

/-- Within one step only two stars stand for folders. -/
theorem deep_mem_ofText_iff
    (noSlash : '/' ∉ text)
    (reads : Pattern.ofText text = .ok pattern) :
    .deep ∈ pattern.tokens ↔ text = ['*', '*'] := by
  have isRead := ofText_eq_ok_iff.mp reads
  by_cases starts : ['*', '*'] <+: text
  · obtain ⟨rest, rfl⟩ := starts
    rw [List.cons_append, List.cons_append, List.nil_append] at isRead noSlash ⊢
    cases rest with
    | nil =>
        rw [readFrom, Option.all_none, if_pos rfl] at isRead
        simp [← Except.ok.inj isRead, pushDeep]
    | cons next others =>
        -- what stands behind two stars is a slash, or else there is no pattern
        have isNext : next ≠ '/' := by
          rintro rfl
          exact noSlash (by simp)
        by_cases isStar : next = '*'
        · rw [isStar, readFrom] at isRead
          cases isRead
        · rw [readFrom, Option.all_none, if_pos rfl] at isRead
          · cases isRead
          · simp [isStar]
          · simp
          · simp [isNext]
  · rw [deep_mem_readFrom_iff 0 none [] (fun _ => starts) noSlash isRead]
    refine iff_of_false List.not_mem_nil ?_
    rintro rfl
    exact starts (List.prefix_refl _)

end Pattern

/-! ## Fitting -/

/-- A pattern with a literal front fits texts with that front. -/
theorem fits_char_append_iff
    {front text : List Char}
    {tokens : List Token} :
    fits (front.map Token.char ++ tokens) text = true ↔
      ∃ rest, text = front ++ rest ∧ fits tokens rest = true := by
  induction front generalizing text with
  | nil => simp
  | cons character front inductionHypothesis =>
      cases text with
      | nil => simp [fits]
      | cons first text => simp [fits, Token.admits, inductionHypothesis, and_assoc]

theorem nil_mem_behindDirectories
    (text : List Char) :
    [] ∈ behindDirectories text := by
  induction text with
  | nil => exact List.mem_cons_self
  | cons character rest inductionHypothesis =>
      rw [behindDirectories]
      split
      · exact List.mem_cons_of_mem _ inductionHypothesis
      · exact inductionHypothesis

/-- A token for directories fits whatever is left. -/
theorem fits_deep
    (text : List Char) :
    fits [.deep] text = true := by
  rw [fits, List.any_eq_true]
  exact ⟨[], List.mem_cons_of_mem _ (nil_mem_behindDirectories text), rfl⟩

end Glob
end KeyedText
