import OpenwrtSource.Reconnect.Config

/-!
# Encryption texts

`map_encryption` looks for words anywhere in the text.  In a text made of a base
type and of ciphers behind plus signs no word runs over a plus sign, so the
answer is a function of the base type and of the ciphers that are listed.
-/

namespace OpenwrtSource.Reconnect.Encryption

open Reconnect.Config

section

universe u
variable {α : Type u} {sep : α} {word : List α}

theorem prefix_of_prefix_separated (plain : sep ∉ word) (left : List α) {right : List α}
    (starts : word <+: left ++ sep :: right) : word <+: left := by
  have whole : left ++ [sep] <+: left ++ sep :: right := ⟨right, by simp⟩
  obtain within | beyond := List.prefix_or_prefix_of_prefix starts whole
  · obtain same | inside := List.prefix_concat_iff.mp within
    · rw [same] at plain
      exact absurd (by simp) plain
    · exact inside
  · exact absurd (beyond.subset (by simp)) plain

theorem infix_separated_iff (plain : sep ∉ word) (left right : List α) :
    word <:+: left ++ sep :: right ↔ word <:+: left ∨ word <:+: right := by
  induction left with
  | nil =>
    rw [List.nil_append, List.infix_cons_iff]
    apply or_congr_left
    constructor
    · intro starts
      exact (prefix_of_prefix_separated plain [] starts).isInfix
    · intro empty
      rw [List.infix_nil.mp empty]
      exact List.nil_prefix
  | cons first left ih =>
    rw [List.cons_append, List.infix_cons_iff, List.infix_cons_iff, ih, or_assoc]
    apply or_congr_left
    constructor
    · intro starts
      exact prefix_of_prefix_separated plain (first :: left) starts
    · intro starts
      exact starts.trans (List.prefix_append (first :: left) (sep :: right))

end

/-- The base types that `map_encryption` knows. -/
inductive Base where
  | none
  | open_
  | psk
  | psk2
  | pskMixed
  | sae
  | saeMixed
  | wpa3
  | wpa3Mixed
  | owe
  deriving DecidableEq

inductive Cipher where
  | tkip
  | aes
  | ccmp
  deriving DecidableEq

def Base.text : Base → Text
  | .none => ['n', 'o', 'n', 'e']
  | .open_ => ['o', 'p', 'e', 'n']
  | .psk => ['p', 's', 'k']
  | .psk2 => ['p', 's', 'k', '2']
  | .pskMixed => ['p', 's', 'k', '-', 'm', 'i', 'x', 'e', 'd']
  | .sae => ['s', 'a', 'e']
  | .saeMixed => ['s', 'a', 'e', '-', 'm', 'i', 'x', 'e', 'd']
  | .wpa3 => ['w', 'p', 'a', '3']
  | .wpa3Mixed => ['w', 'p', 'a', '3', '-', 'm', 'i', 'x', 'e', 'd']
  | .owe => ['o', 'w', 'e']

def Cipher.text : Cipher → Text
  | .tkip => ['t', 'k', 'i', 'p']
  | .aes => ['a', 'e', 's']
  | .ccmp => ['c', 'c', 'm', 'p']

def encryption (base : Base) (ciphers : List Cipher) : Text :=
  base.text ++ ciphers.flatMap fun cipher => '+' :: cipher.text

/-- The authentication mode of a base type, where CCMP makes `psk` a WPA2 network. -/
def authMode : Base → Bool → Text
  | .none, _ => ['O', 'P', 'E', 'N']
  | .open_, _ => ['O', 'P', 'E', 'N']
  | .psk, true => ['W', 'P', 'A', '2', 'P', 'S', 'K']
  | .psk, false => ['W', 'P', 'A', 'P', 'S', 'K']
  | .psk2, _ => ['W', 'P', 'A', '2', 'P', 'S', 'K']
  | .pskMixed, _ => ['W', 'P', 'A', '1', 'P', 'S', 'K', 'W', 'P', 'A', '2', 'P', 'S', 'K']
  | .sae, _ => ['W', 'P', 'A', '3', 'S', 'A', 'E']
  | .wpa3, _ => ['W', 'P', 'A', '3', 'S', 'A', 'E']
  | .saeMixed, _ => ['W', 'P', 'A', '2', 'P', 'S', 'K', 'W', 'P', 'A', '3', 'S', 'A', 'E']
  | .wpa3Mixed, _ => ['W', 'P', 'A', '2', 'P', 'S', 'K', 'W', 'P', 'A', '3', 'S', 'A', 'E']
  | .owe, _ => ['O', 'W', 'E']

def tkipAes : Text := ['T', 'K', 'I', 'P', 'A', 'E', 'S']
def tkipOnly : Text := ['T', 'K', 'I', 'P']
def aesOnly : Text := ['A', 'E', 'S']
def noCipher : Text := ['N', 'O', 'N', 'E']

def encMode : Base → Bool → Bool → Text
  | .none, _, _ => noCipher
  | .open_, _, _ => noCipher
  | .psk, tkip, aes => if tkip then if aes then tkipAes else tkipOnly else aesOnly
  | .psk2, tkip, aes => if tkip then if aes then tkipAes else tkipOnly else aesOnly
  | .pskMixed, tkip, aes => if tkip && !aes then tkipOnly else tkipAes
  | .sae, _, _ => aesOnly
  | .saeMixed, _, _ => aesOnly
  | .wpa3, _, _ => aesOnly
  | .wpa3Mixed, _, _ => aesOnly
  | .owe, _, _ => aesOnly

theorem contains_encryption (base : Base) (ciphers : List Cipher) {word : Text}
    (plain : '+' ∉ word) :
    contains (encryption base ciphers) word =
      (contains base.text word || ciphers.any fun cipher => contains cipher.text word) := by
  unfold encryption
  generalize base.text = text
  induction ciphers generalizing text with
  | nil => simp
  | cons cipher rest ih =>
    have split : contains (text ++ ('+' :: cipher.text ++
        rest.flatMap fun cipher => '+' :: cipher.text)) word =
        (contains text word ||
          contains (cipher.text ++ rest.flatMap fun cipher => '+' :: cipher.text) word) := by
      unfold contains
      rw [← Bool.decide_or]
      exact decide_eq_decide.mpr (infix_separated_iff plain text _)
    rw [List.flatMap_cons, split, ih, List.any_cons]

theorem any_contains_iff_listed {word : Text} (listed : Cipher)
    (only : ∀ cipher : Cipher, contains cipher.text word = decide (cipher = listed))
    (ciphers : List Cipher) :
    (ciphers.any fun cipher => contains cipher.text word) = decide (listed ∈ ciphers) := by
  simp only [only]
  rw [Bool.eq_iff_iff, List.any_eq_true, decide_eq_true_eq]
  constructor
  · rintro ⟨cipher, member, same⟩
    rw [← of_decide_eq_true same]
    exact member
  · intro member
    exact ⟨listed, member, decide_eq_true rfl⟩

theorem any_contains_eq_false {word : Text}
    (never : ∀ cipher : Cipher, contains cipher.text word = false) (ciphers : List Cipher) :
    (ciphers.any fun cipher => contains cipher.text word) = false := by
  simp [never]

def Cipher.all : List Cipher := [.tkip, .aes, .ccmp]

theorem Cipher.mem_all (cipher : Cipher) : cipher ∈ Cipher.all := by
  cases cipher <;> decide

theorem contains_base (base : Base) (ciphers : List Cipher) (word : Text) (plain : '+' ∉ word)
    (never : ∀ cipher ∈ Cipher.all, contains cipher.text word = false) :
    contains (encryption base ciphers) word = contains base.text word := by
  have idle := any_contains_eq_false (fun cipher => never cipher cipher.mem_all) ciphers
  rw [contains_encryption base ciphers plain, idle, Bool.or_false]

theorem contains_cipher (base : Base) (ciphers : List Cipher) (listed : Cipher) (word : Text)
    (plain : '+' ∉ word)
    (only : ∀ cipher ∈ Cipher.all, contains cipher.text word = decide (cipher = listed)) :
    contains (encryption base ciphers) word =
      (contains base.text word || decide (listed ∈ ciphers)) := by
  rw [contains_encryption base ciphers plain,
    any_contains_iff_listed listed fun cipher => only cipher cipher.mem_all]

theorem mapEncryption_encryption (base : Base) (ciphers : List Cipher) :
    mapEncryption (some (encryption base ciphers)) =
      (authMode base (decide (Cipher.ccmp ∈ ciphers)),
        encMode base (decide (Cipher.tkip ∈ ciphers)) (decide (Cipher.aes ∈ ciphers))) := by
  have ofBase := contains_base base ciphers
  have ofCipher := contains_cipher base ciphers
  have isNone := ofBase ['n', 'o', 'n', 'e'] (by decide) (by decide)
  have isOpen := ofBase ['o', 'p', 'e', 'n'] (by decide) (by decide)
  have sae := ofBase ['s', 'a', 'e'] (by decide) (by decide)
  have wpa3 := ofBase ['w', 'p', 'a', '3'] (by decide) (by decide)
  have psk2 := ofBase ['p', 's', 'k', '2'] (by decide) (by decide)
  have psk := ofBase ['p', 's', 'k'] (by decide) (by decide)
  have mixed := ofBase ['m', 'i', 'x', 'e', 'd'] (by decide) (by decide)
  have owe := ofBase ['o', 'w', 'e'] (by decide) (by decide)
  have tkip := ofCipher .tkip ['t', 'k', 'i', 'p'] (by decide) (by decide)
  have aes := ofCipher .aes ['a', 'e', 's'] (by decide) (by decide)
  have ccmp := ofCipher .ccmp ['c', 'c', 'm', 'p'] (by decide) (by decide)
  simp only [mapEncryption, isNone, isOpen, sae, wpa3, psk2, psk, mixed, owe, tkip, aes, ccmp]
  generalize decide (Cipher.tkip ∈ ciphers) = listsTkip
  generalize decide (Cipher.aes ∈ ciphers) = listsAes
  generalize decide (Cipher.ccmp ∈ ciphers) = listsCcmp
  cases base <;>
  · revert listsTkip listsAes listsCcmp
    decide

def Base.Psk (base : Base) : Prop := base = .psk ∨ base = .psk2

def Base.AesOnly (base : Base) : Prop :=
  base = .sae ∨ base = .saeMixed ∨ base = .wpa3 ∨ base = .wpa3Mixed ∨ base = .owe

/-- The answer for a base type and a list of ciphers: the mixed mode has TKIP and AES unless TKIP
alone is listed, and the types with only AES take no notice of the list. -/
theorem mode_of_listed_ciphers (base : Base) (ciphers : List Cipher) :
    let answer := mapEncryption (some (encryption base ciphers))
    (∀ others, (∀ cipher, cipher ∈ others ↔ cipher ∈ ciphers) →
      mapEncryption (some (encryption base others)) = answer) ∧
    (base.Psk ∨ base = .pskMixed →
      (.tkip ∈ ciphers → .aes ∈ ciphers → answer.2 = tkipAes) ∧
      (.tkip ∈ ciphers → .aes ∉ ciphers → .ccmp ∉ ciphers → answer.2 = tkipOnly)) ∧
    (base.Psk → .tkip ∉ ciphers → answer.2 = aesOnly) ∧
    (base = .pskMixed → .tkip ∉ ciphers → answer.2 = tkipAes) ∧
    (base.AesOnly → answer.2 = aesOnly) ∧
    (base = .none ∨ base = .open_ → answer.2 = noCipher) ∧
    answer.1 = authMode base (decide (Cipher.ccmp ∈ ciphers)) ∧
    ∀ others, (base = .psk → (.ccmp ∈ others ↔ .ccmp ∈ ciphers)) →
      (mapEncryption (some (encryption base others))).1 = answer.1 := by
  simp only [mapEncryption_encryption]
  refine ⟨?_, ?_, ?_, ?_, ?_, ?_, trivial, ?_⟩
  · intro others same
    simp only [same]
  · intro known
    constructor
    · intro tkip aes
      obtain (rfl | rfl) | rfl := known <;> simp [encMode, tkip, aes]
    · intro tkip noAes _
      obtain (rfl | rfl) | rfl := known <;> simp [encMode, tkip, noAes]
  · intro known noTkip
    obtain rfl | rfl := known <;> simp [encMode, noTkip]
  · intro mixed noTkip
    simp [mixed, encMode, noTkip]
  · intro known
    obtain rfl | rfl | rfl | rfl | rfl := known <;> rfl
  · intro known
    obtain rfl | rfl := known <;> rfl
  · intro others same
    by_cases psk : base = .psk
    · simp only [same psk]
    · -- CCMP makes a difference for `psk` only
      cases base <;> first | exact absurd rfl psk | rfl

/-- `psk-mixed` has TKIP although none is listed, `sae+tkip` has AES, and `psk+ccmp` is not the
network that `psk` is. -/
theorem modes_against_the_list :
    (mapEncryption (some (encryption .pskMixed []))).2 = tkipAes ∧
      (mapEncryption (some (encryption .sae [.tkip]))).2 = aesOnly ∧
        (mapEncryption (some (encryption .psk [.ccmp]))).1 ≠
          (mapEncryption (some (encryption .psk []))).1 := by
  decide

end OpenwrtSource.Reconnect.Encryption
