import OriginServer.Message.Method
import OriginServer.Text.Chars

/-!
# The spelling of methods

`Method.Spelled` says which token spells a method, without the function that makes the method
(`Method.parse?_eq_some_iff`). The characters of a token are ASCII characters that are not blank
(`Method.isBlank_of_isTokenChar`, `Method.ascii_of_isTokenChar`). No two texts spell one method, so
lists of methods can be compared by the texts that spell them (`Method.mem_iff_of_spelled`).
-/
namespace OriginServer

open Text (isBlank)

/-- A method is spelled by a token; only a token that is no method's own spells an extension. -/
structure Method.Spelled (method : Method) (token : String) : Prop where
  /-- The token is the text of the method. -/
  text : method.text = token
  /-- It is a token. -/
  valid : Method.isToken token = true
  /-- A method with a name of its own is not taken for an extension. -/
  own : ∀ known ∈ Method.known, known.text = token → method = known

namespace Method

/-- The text of a method with a name of its own is a token, and no other such method has it. -/
theorem own_known : ∀ method ∈ known, isToken method.text = true ∧
    ∀ other ∈ known, other.text = method.text → method = other := by
  decide +kernel

/-- A method is made from the token that spells it. -/
theorem parse?_eq_some_iff {token : String} {method : Method} :
    parse? token = some method ↔ method.Spelled token := by
  rw [parse?]
  cases found : known.find? (·.text == token) with
  | some own =>
    have inside := List.mem_of_find?_eq_some found
    have text : own.text = token := by simpa using List.find?_some found
    dsimp only
    constructor
    · intro same
      obtain rfl := Option.some.inj same
      exact ⟨text, text ▸ (own_known own inside).1,
        fun other known same => (own_known own inside).2 other known (same.trans text.symm)⟩
    · intro spelled
      rw [spelled.own own inside text]
  | none =>
    have other : ∀ own ∈ known, own.text ≠ token := by simpa using found
    dsimp only
    constructor
    · intro made
      split at made
      · rename_i isToken
        obtain rfl := Option.some.inj made
        exact ⟨rfl, isToken, fun own inside text => absurd text (other own inside)⟩
      · cases made
    · intro spelled
      rw [if_pos spelled.valid]
      cases method with
      | extension name => rw [← spelled.text, text]
      | _ => exact absurd spelled.text (other _ (by decide))

/-- No method is made from what is no token. -/
theorem parse?_eq_none_iff {token : String} : parse? token = none ↔ isToken token = false := by
  rw [parse?]
  cases found : known.find? (·.text == token) with
  | some own =>
    have text : own.text = token := by simpa using List.find?_some found
    have valid := (own_known own (List.mem_of_find?_eq_some found)).1
    rw [text] at valid
    simp [valid]
  | none => simp

/-- A method is made exactly from a token. -/
theorem exists_parse?_iff {token : String} :
    (∃ method, parse? token = some method) ↔ isToken token = true := by
  rw [← Option.isSome_iff_exists, ← Option.ne_none_iff_isSome, ne_eq, parse?_eq_none_iff,
    Bool.not_eq_false]

/-- A token has characters, all of them token characters. -/
theorem isToken_iff {text : String} :
    isToken text = true ↔ text ≠ "" ∧ ∀ char ∈ text.toList, isTokenChar char = true := by
  rw [isToken, Bool.and_eq_true, List.all_eq_true]
  simp

/-- A letter or a digit lies in one of three ranges. -/
theorem ranges_of_isAlphanum {char : Char} (alphanumeric : char.isAlphanum = true) :
    ((65 ≤ char.toNat ∧ char.toNat ≤ 90) ∨ (97 ≤ char.toNat ∧ char.toNat ≤ 122)) ∨
      (48 ≤ char.toNat ∧ char.toNat ≤ 57) := by
  change ((decide (65 ≤ char.val ∧ char.val ≤ 90) ||
    (decide (97 ≤ char.val) && decide (char.val ≤ 122))) ||
    (decide (48 ≤ char.val) && decide (char.val ≤ 57))) = true at alphanumeric
  simp only [Bool.or_eq_true, Bool.and_eq_true, decide_eq_true_eq,
    UInt32.le_iff_toNat_le] at alphanumeric
  exact alphanumeric

/-- The characters of a token are not blank. -/
theorem isBlank_of_isTokenChar {char : Char} (valid : isTokenChar char = true) :
    isBlank char = false := by
  have marks : ("!#$%&\x27*+-.^_\x60|~".toList.all (!isBlank ·)) = true := by decide
  rw [isTokenChar, Bool.or_eq_true, List.contains_iff_mem] at valid
  cases valid with
  | inl alphanumeric =>
    have ranges := ranges_of_isAlphanum alphanumeric
    simp only [isBlank, Bool.or_eq_false_iff, Bool.and_eq_false_iff, decide_eq_false_iff_not]
    omega
  | inr mark => simpa using List.all_eq_true.mp marks char mark

/-- The characters of a token are ASCII characters. -/
theorem ascii_of_isTokenChar {char : Char} (valid : isTokenChar char = true) :
    char.toNat < 128 := by
  have marks : ("!#$%&\x27*+-.^_\x60|~".toList.all (·.toNat < 128)) = true := by decide
  rw [isTokenChar, Bool.or_eq_true, List.contains_iff_mem] at valid
  cases valid with
  | inl alphanumeric =>
    have ranges := ranges_of_isAlphanum alphanumeric
    omega
  | inr mark => simpa using List.all_eq_true.mp marks char mark

/-! ## Lists of methods -/

section Lists

variable {texts : List String} {methods : List Method}

/-- Each method of a list that texts spell is spelled by one of them. -/
theorem exists_spelling (spelled : texts.map parse? = methods.map some) {method : Method}
    (listed : method ∈ methods) : ∃ token ∈ texts, parse? token = some method := by
  have inside : some method ∈ methods.map some := List.mem_map_of_mem listed
  rw [← spelled] at inside
  exact List.mem_map.mp inside

/-- Each text of a list that spells methods spells one of them. -/
theorem exists_spelled (spelled : texts.map parse? = methods.map some) {token : String}
    (inside : token ∈ texts) : ∃ method ∈ methods, parse? token = some method := by
  have named : parse? token ∈ texts.map parse? := List.mem_map_of_mem inside
  rw [spelled] at named
  obtain ⟨method, listed, same⟩ := List.mem_map.mp named
  exact ⟨method, listed, same.symm⟩

/-- Methods that texts spell have these texts. -/
theorem map_text_of_spelled (spelled : texts.map parse? = methods.map some) :
    methods.map text = texts := by
  induction texts generalizing methods with
  | nil => rw [List.map_eq_nil_iff.mp spelled.symm, List.map_nil]
  | cons token texts ih =>
    obtain ⟨method, others, rfl, first, later⟩ := List.map_eq_cons_iff.mp spelled.symm
    rw [List.map_cons, ih later.symm, (parse?_eq_some_iff.mp first.symm).text]

/-- A method is among those that texts spell exactly if its text is among the texts. -/
theorem mem_iff_of_spelled (spelled : texts.map parse? = methods.map some) {token : String}
    {method : Method} (parsed : parse? token = some method) : method ∈ methods ↔ token ∈ texts := by
  constructor
  · intro listed
    obtain ⟨other, inside, same⟩ := exists_spelling spelled listed
    rwa [← (parse?_eq_some_iff.mp parsed).text, (parse?_eq_some_iff.mp same).text]
  · intro inside
    obtain ⟨other, listed, same⟩ := exists_spelled spelled inside
    rwa [Option.some.inj (parsed.symm.trans same)]

end Lists

end Method

end OriginServer
