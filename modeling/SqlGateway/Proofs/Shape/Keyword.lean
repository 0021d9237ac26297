import SqlGateway.Proofs.Shape.Reads
import SqlGateway.Shape.Pattern
import SqlGateway.Value.Literal

/-!
# The keywords of the shapes

The skeleton of a shape is compared up to case by folding, the keywords of the grammar by capitals.
Beyond ASCII only the long s and the Kelvin sign fold to an ASCII letter, and of these the Kelvin
sign is no capital letter of ASCII.  No keyword of a skeleton has a K, so whatever passes for one of
them is that keyword for the grammar.
-/

namespace SqlGateway.Shape

open Text Sql

variable {c d : Char} {text rest : List Char} {keyword : String}

/-! ### Folding -/

theorem toNat_ofNat (n : Nat) : (Char.ofNat n).toNat = n ∨ (Char.ofNat n).toNat = 0 := by
  by_cases hvalid : n.isValidChar
  · left
    rw [Char.ofNat, dif_pos hvalid]
    rfl
  · right
    rw [Char.ofNat, dif_neg hvalid]
    rfl

/-- Beyond ASCII two characters fold to an ASCII character. -/
theorem eq_of_fold_ascii (hc : 128 ≤ c.toNat) (hfold : 0 < (fold c).toNat ∧ (fold c).toNat < 128) :
    (c = '\u017f' ∧ fold c = 's') ∨ (c = '\u212a' ∧ fold c = 'k') := by
  have htable : ∀ entry ∈ Property.shifts,
      128 ≤ (entry.1 : Int) + entry.2.2.2 ∨ (entry.1 = 0x17F ∧ entry.2.1 = 0x17F) ∨
        (entry.1 = 0x212A ∧ entry.2.1 = 0x212A) := by
    decide +kernel
  have hwide : ¬c.val < 128 := by
    rw [UInt32.not_lt, UInt32.le_iff_toNat_le]
    exact hc
  have hself : c.toNat ≤ 0x17F → 0x17F ≤ c.toNat → c = '\u017f' := by
    intro hle hge
    exact Char.toNat_inj.mp (Nat.le_antisymm hle hge)
  have hkelvin : c.toNat ≤ 0x212A → 0x212A ≤ c.toNat → c = '\u212a' := by
    intro hle hge
    exact Char.toNat_inj.mp (Nat.le_antisymm hle hge)
  rw [fold, if_neg hwide] at hfold
  split at hfold
  · rename_i first last step shift hfind
    have hmem := List.mem_of_find?_eq_some hfind
    have hrange := List.find?_some hfind
    simp only [Bool.and_eq_true, decide_eq_true_eq] at hrange
    rcases htable _ hmem with hshift | ⟨hfirst, hlast⟩ | ⟨hfirst, hlast⟩
    · simp only at hshift
      rcases toNat_ofNat (c.toNat + shift).toNat with hcode | hcode
      · omega
      · omega
    · simp only at hfirst hlast
      obtain rfl := hself (by omega) (by omega)
      exact .inl ⟨rfl, by decide⟩
    · simp only at hfirst hlast
      obtain rfl := hkelvin (by omega) (by omega)
      exact .inr ⟨rfl, by decide⟩
  · omega

/-- The characters of the skeletons: capital letters other than K, and what separates keywords. -/
def skeletonChars : List Char := " )ABCDEFGHIJLMNOPQRSTUVWXYZ".toList

/-- What passes for a character of a skeleton has it for its capital. -/
theorem upperChars_of_sameFold (hc : c ∈ skeletonChars) (hfold : sameFold c d = true) :
    upperChars d = [c] := by
  rw [sameFold, beq_iff_eq] at hfold
  by_cases hd : d.toNat < 128
  · have hall : ∀ c ∈ skeletonChars, fold c = fold d → upperChars d = [c] :=
      forall_ascii (p := fun d => ∀ c ∈ skeletonChars, fold c = fold d → upperChars d = [c])
        (by decide +kernel) hd
    exact hall c hc hfold
  · have hascii : ∀ c ∈ skeletonChars, 0 < (fold c).toNat ∧ (fold c).toNat < 128 := by decide
    have hrange := hascii c hc
    rw [hfold] at hrange
    rcases eq_of_fold_ascii (Nat.not_lt.mp hd) hrange with ⟨rfl, hs⟩ | ⟨rfl, hk⟩
    · have hall : ∀ c ∈ skeletonChars, fold c = 's' → upperChars '\u017f' = [c] := by decide
      exact hall c hc (hfold.trans hs)
    · have hall : ∀ c ∈ skeletonChars, fold c ≠ 'k' := by decide
      exact absurd (hfold.trans hk) (hall c hc)

/-! ### Keywords -/

/-- Whether a text is one word and the given keyword for the grammar. -/
structure IsKeyword (keyword : String) (word : List Char) : Prop where
  oneWord : isOneWord word = true
  keyword_eq : (Word.bare word).keyword = keyword

/-- The letters of the skeletons. -/
def skeletonLetters : List Char := "ABCDEFGHIJLMNOPQRSTUVWXYZ".toList

theorem isWordStart_of_upperChars (hc : c ∈ skeletonLetters) (hupper : upperChars d = [c]) :
    isWordStart d = true ∧ d ≠ '@' := by
  -- ASCII is tried character by character; beyond it any character may begin a word
  by_cases hd : d.toNat < 128
  · have hall : ∀ c ∈ skeletonLetters, upperChars d = [c] → isWordStart d = true ∧ d ≠ '@' :=
      forall_ascii (p := fun d => ∀ c ∈ skeletonLetters, upperChars d = [c] →
        isWordStart d = true ∧ d ≠ '@') (by decide +kernel) hd
    exact hall c hc hupper
  · have hwide : 128 ≤ d.val := UInt32.le_iff_toNat_le.mpr (Nat.not_lt.mp hd)
    refine ⟨by simp [isWordStart, hwide], ?_⟩
    rintro rfl
    exact hd (by decide)

theorem isOneWord_of_starts {word : List Char} (hne : word ≠ [])
    (hstarts : ∀ c ∈ word, isWordStart c = true ∧ c ≠ '@') : isOneWord word = true := by
  have hparts : word.all isWordPart = true := by
    rw [List.all_eq_true]
    intro c hc
    simp [isWordPart, (hstarts c hc).1]
  cases word with
  | nil => exact absurd rfl hne
  | cons c word =>
      obtain ⟨hstart, hat⟩ := hstarts c List.mem_cons_self
      have hdigit := isDigit_of_isWordStart hstart
      simp [isOneWord, hparts, hdigit, hat]

/-- What passes for the letters at the front of a skeleton. -/
theorem exists_of_dropKeyword? {letters more : List Char}
    (hletters : ∀ c ∈ letters, c ∈ skeletonLetters)
    (hdrop : dropKeyword? (letters ++ more) text = some rest) :
    ∃ word behind, text = word ++ behind ∧ word.length = letters.length ∧
      (∀ c ∈ word, isWordStart c = true ∧ c ≠ '@') ∧ upper word = letters ∧
        dropKeyword? more behind = some rest := by
  induction letters generalizing text with
  | nil => exact ⟨[], text, rfl, rfl, by simp, rfl, hdrop⟩
  | cons c letters ih =>
      obtain ⟨hc, hrest⟩ := List.forall_mem_cons.mp hletters
      cases text with
      | nil => simp [dropKeyword?] at hdrop
      | cons d text =>
          rw [List.cons_append, dropKeyword?] at hdrop
          split at hdrop
          · rename_i hfold
            have hskeleton : c ∈ skeletonChars := List.mem_append_right [' ', ')'] hc
            have hupper := upperChars_of_sameFold hskeleton hfold
            obtain ⟨word, behind, rfl, hlength, hword, hcapitals, hbehind⟩ := ih hrest hdrop
            refine ⟨d :: word, behind, rfl, by simp [hlength], ?_, ?_, hbehind⟩
            · exact List.forall_mem_cons.mpr ⟨isWordStart_of_upperChars hc hupper, hword⟩
            · rw [upper, List.flatMap_cons, hupper]
              exact congrArg (c :: ·) hcapitals
          · simp at hdrop

theorem exists_keyword_of_dropKeyword? {more : List Char}
    (hkeyword : keyword.toList ≠ [] ∧ ∀ c ∈ keyword.toList, c ∈ skeletonLetters)
    (hdrop : dropKeyword? (keyword.toList ++ more) text = some rest) :
    ∃ word behind, text = word ++ behind ∧ IsKeyword keyword word ∧
      dropKeyword? more behind = some rest := by
  obtain ⟨word, behind, rfl, hlength, hword, hupper, hbehind⟩ :=
    exists_of_dropKeyword? hkeyword.2 hdrop
  have hne : word ≠ [] := by
    rintro rfl
    exact hkeyword.1 (List.length_eq_zero_iff.mp hlength.symm)
  refine ⟨word, behind, rfl, ⟨isOneWord_of_starts hne hword, ?_⟩, hbehind⟩
  rw [Word.bare, hupper, String.ofList_toList]

/-- Beyond ASCII a character is its own small letter. -/
theorem toLower_eq_self (hc : ¬c.toNat < 128) : c.toLower = c := by
  refine dif_neg fun hrange => hc ?_
  exact Nat.lt_of_le_of_lt (UInt32.le_iff_toNat_le.mp hrange.2) (by decide)

theorem upperChars_of_toLower (hc : c ∈ skeletonLetters) (hlower : d.toLower = c.toLower) :
    upperChars d = [c] := by
  by_cases hd : d.toNat < 128
  · have hall : ∀ c ∈ skeletonLetters, d.toLower = c.toLower → upperChars d = [c] :=
      forall_ascii (p := fun d => ∀ c ∈ skeletonLetters, d.toLower = c.toLower →
        upperChars d = [c]) (by decide +kernel) hd
    exact hall c hc hlower
  · have hascii : ∀ c ∈ skeletonLetters, c.toLower.toNat < 128 := by decide
    rw [← toLower_eq_self hd, hlower] at hd
    exact absurd (hascii c hc) hd

theorem upper_of_map_toLower {letters word : List Char}
    (hletters : ∀ c ∈ letters, c ∈ skeletonLetters)
    (hlower : word.map Char.toLower = letters.map Char.toLower) :
    upper word = letters ∧ ∀ c ∈ word, isWordStart c = true ∧ c ≠ '@' := by
  induction letters generalizing word with
  | nil =>
      obtain rfl := List.map_eq_nil_iff.mp hlower
      exact ⟨rfl, by simp⟩
  | cons c letters ih =>
      obtain ⟨hc, hrest⟩ := List.forall_mem_cons.mp hletters
      obtain ⟨d, word, rfl, hd, hword⟩ := List.map_eq_cons_iff.mp hlower
      have hupper := upperChars_of_toLower hc hd
      obtain ⟨hcapitals, hstarts⟩ := ih hrest hword
      refine ⟨?_, List.forall_mem_cons.mpr ⟨isWordStart_of_upperChars hc hupper, hstarts⟩⟩
      rw [upper, List.flatMap_cons, hupper]
      exact congrArg (c :: ·) hcapitals

theorem eq_of_upperChars (hc : c = ' ' ∨ c = ')') (hupper : upperChars d = [c]) : d = c := by
  by_cases hd : d.toNat < 128
  · have hall : ∀ c ∈ [' ', ')'], upperChars d = [c] → d = c :=
      forall_ascii (p := fun d => ∀ c ∈ [' ', ')'], upperChars d = [c] → d = c) (by decide) hd
    exact hall c (by simpa using hc) hupper
  · have hwide : ¬d.val < 128 := hd
    unfold upperChars at hupper
    rw [if_neg hwide] at hupper
    split at hupper <;> rcases hc with rfl | rfl <;> simp_all

/-- Only a character itself passes for a separator. -/
theorem eq_of_dropKeyword?_cons {more : List Char} (hc : c = ' ' ∨ c = ')')
    (hdrop : dropKeyword? (c :: more) text = some rest) :
    ∃ behind, text = c :: behind ∧ dropKeyword? more behind = some rest := by
  cases text with
  | nil => simp [dropKeyword?] at hdrop
  | cons d text =>
      rw [dropKeyword?] at hdrop
      split at hdrop
      · rename_i hfold
        have hskeleton : c ∈ skeletonChars := by
          rcases hc with rfl | rfl <;> decide
        rw [eq_of_upperChars hc (upperChars_of_sameFold hskeleton hfold)]
        exact ⟨text, rfl, hdrop⟩
      · simp at hdrop

/-- Keywords with a space behind each. -/
def phrase : List String → List Char
  | [] => []
  | keyword :: keywords => keyword.toList ++ ' ' :: phrase keywords

/-- Whether a text is a keyword of the skeletons. -/
def isSkeletonWord (keyword : String) : Bool :=
  !keyword.toList.isEmpty && keyword.toList.all skeletonLetters.contains

/-- A keyword in ASCII letters of any case is that keyword for the grammar. -/
theorem isKeyword_of_isWordOf {word : List Char} (hkeyword : isSkeletonWord keyword = true)
    (hword : Value.isWordOf keyword word = true) : IsKeyword keyword word := by
  have hletters : keyword.toList ≠ [] ∧ ∀ c ∈ keyword.toList, c ∈ skeletonLetters := by
    simpa [isSkeletonWord] using hkeyword
  rw [Value.isWordOf, beq_iff_eq] at hword
  obtain ⟨hupper, hstarts⟩ := upper_of_map_toLower hletters.2 hword
  have hne : word ≠ [] := by
    rintro rfl
    exact hletters.1 hupper.symm
  refine ⟨isOneWord_of_starts hne hstarts, ?_⟩
  rw [Word.bare, hupper, String.ofList_toList]

/-- What passes for a phrase is read as its keywords. -/
theorem exists_reads_of_phrase (keywords : List String)
    (hkeywords : keywords.all isSkeletonWord = true)
    (hdrop : dropKeyword? (phrase keywords) text = some rest) :
    ∃ words : List Word, words.map Word.keyword = keywords ∧
      ∀ tokens, Reads rest tokens → Reads text (words.map .word ++ tokens) := by
  induction keywords generalizing text with
  | nil =>
      cases hdrop
      exact ⟨[], rfl, fun tokens hreads => hreads⟩
  | cons keyword keywords ih =>
      rw [List.all_cons, Bool.and_eq_true] at hkeywords
      obtain ⟨hkeyword, hrest⟩ := hkeywords
      have hletters : keyword.toList ≠ [] ∧ ∀ c ∈ keyword.toList, c ∈ skeletonLetters := by
        simpa [isSkeletonWord] using hkeyword
      obtain ⟨word, behind, rfl, hword, hbehind⟩ := exists_keyword_of_dropKeyword? hletters hdrop
      obtain ⟨further, rfl, hfurther⟩ := eq_of_dropKeyword?_cons (.inl rfl) hbehind
      obtain ⟨words, hwords, hreads⟩ := ih hrest hfurther
      refine ⟨.bare word :: words, by rw [List.map_cons, hword.keyword_eq, hwords], ?_⟩
      intro tokens htokens
      exact Reads.word hword.oneWord (by simp [isBreak, isBlank])
        ((hreads tokens htokens).blank rfl)

end SqlGateway.Shape
