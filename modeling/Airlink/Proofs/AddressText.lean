import Airlink.HwAddr
import Mathlib.Data.List.Forall2

/-!
# Addresses in text

A text is read as an address just if it is six groups with one separator between each and the next,
and each group stands for an octet (`HwAddr.ofText?_eq_some_iff`). Two hexadecimal digits do so, of
either case, and so does a plus sign with one digit behind it, as in `+1:+2:+3:+4:+5:+6`. A text in
which there is no plus sign is read just if it is written in digits.
-/

namespace Airlink

namespace Bytes.Hex

/-- A hexadecimal digit, of either case, and its value. -/
def IsDigit (c : Char) (n : Nat) : Prop :=
  "0123456789abcdef".toList[n]? = some c ∨ "0123456789ABCDEF".toList[n]? = some c

instance (c : Char) (n : Nat) : Decidable (IsDigit c n) := inferInstanceAs (Decidable (_ ∨ _))

/-- The value of a character is that of the digit that it is. -/
theorem value?_eq_some_iff {c : Char} {n : Nat} : value? c = some n ↔ IsDigit c n := by
  constructor
  · intro h
    have table : ∀ k < 128, ∀ n ∈ value? (Char.ofNat k), IsDigit (Char.ofNat k) n := by
      decide +kernel
    have small : c.toNat < 128 := by
      by_contra large
      have above {last : Char} (ascii : last.toNat < 128) : ¬ c ≤ last := fun below =>
        large (Nat.lt_of_le_of_lt below ascii)
      rw [value?, if_neg fun range => above (by decide) range.2,
        if_neg fun range => above (by decide) range.2,
        if_neg fun range => above (by decide) range.2] at h
      cases h
    have read := table c.toNat small
    rw [Char.ofNat_toNat] at read
    exact read n h
  · have lower : ∀ n < 16, "0123456789abcdef".toList[n]?.bind value? = some n := by decide +kernel
    have upper : ∀ n < 16, "0123456789ABCDEF".toList[n]?.bind value? = some n := by decide +kernel
    rintro (h | h)
    · obtain ⟨small, -⟩ := List.getElem?_eq_some_iff.1 h
      rw [← lower n small, h, Option.bind_some]
    · obtain ⟨small, -⟩ := List.getElem?_eq_some_iff.1 h
      rw [← upper n small, h, Option.bind_some]

/-- A digit counts less than sixteen. -/
theorem IsDigit.lt {c : Char} {n : Nat} (h : IsDigit c n) : n < 16 := by
  rcases h with h | h
  all_goals
    obtain ⟨small, -⟩ := List.getElem?_eq_some_iff.1 h
    exact small

end Bytes.Hex

namespace HwAddr

open Bytes.Hex (IsDigit value?_eq_some_iff)

/-! ## Groups and separators -/

/-- Groups with one separator between each and the next. -/
inductive Separated : List (List Char) → List Char → Prop where
  | last (g : List Char) : Separated [g] g
  | cons (g : List Char) {sep : Char} (is : sep = ':' ∨ sep = '-') {gs : List (List Char)}
      {cs : List Char} (rest : Separated gs cs) : Separated (g :: gs) (g ++ sep :: cs)

theorem isSeparator_iff {c : Char} : isSeparator c = true ↔ c = ':' ∨ c = '-' := by
  simp [isSeparator]

/-- A character put in front of the text is in front of the first group. -/
theorem Separated.push (c : Char) {g cs : List Char} {gs : List (List Char)}
    (h : Separated (g :: gs) cs) : Separated ((c :: g) :: gs) (c :: cs) := by
  cases h with
  | last => exact .last (c :: g)
  | cons _ is rest => exact .cons (c :: g) is rest

/-- The characters of a text are those of its groups, and separators. -/
theorem Separated.mem_iff {gs : List (List Char)} {cs : List Char} (h : Separated gs cs)
    {c : Char} (other : isSeparator c = false) : c ∈ cs ↔ ∃ g ∈ gs, c ∈ g := by
  induction h with
  | last g => simp
  | @cons g sep is gs cs rest ih =>
    have apart : c ≠ sep := by
      rintro rfl
      rw [isSeparator_iff.2 is] at other
      cases other
    simp [ih, apart]

theorem groups_append_of_not_isSeparator {g : List Char} (within : ∀ c ∈ g, isSeparator c = false)
    {h cs : List Char} {gs : List (List Char)} (rest : groups cs = h :: gs) :
    groups (g ++ cs) = (g ++ h) :: gs := by
  induction g with
  | nil => exact rest
  | cons c g ih =>
    obtain ⟨first, others⟩ := List.forall_mem_cons.1 within
    rw [List.cons_append, groups, if_neg (by simp [first]), ih others, List.cons_append]

/-- **Splitting.** The groups of a text are what separators stand between, and in which there is
none. -/
theorem groups_eq_iff {gs : List (List Char)} {cs : List Char} :
    groups cs = gs ↔ Separated gs cs ∧ ∀ g ∈ gs, ∀ c ∈ g, isSeparator c = false := by
  constructor
  · rintro rfl
    induction cs with
    | nil => exact ⟨.last [], by simp [groups]⟩
    | cons c cs ih =>
      obtain ⟨separated, within⟩ := ih
      by_cases sep : isSeparator c = true
      · rw [groups, if_pos sep]
        exact ⟨.cons [] (isSeparator_iff.1 sep) separated, by simpa using within⟩
      · rw [groups, if_neg sep]
        cases split : groups cs with
        | nil =>
          rw [split] at separated
          cases separated
        | cons g gs =>
          rw [split] at separated within
          refine ⟨separated.push c, ?_⟩
          simpa [sep] using within
  · rintro ⟨separated, within⟩
    induction separated with
    | last g =>
      have none : groups [] = [] :: [] := rfl
      simpa using groups_append_of_not_isSeparator (within g (by simp)) none
    | @cons g sep is gs cs rest ih =>
      obtain ⟨first, others⟩ := List.forall_mem_cons.1 within
      have behind : groups (sep :: cs) = [] :: gs := by
        rw [groups, if_pos (isSeparator_iff.2 is), ih others]
      rw [groups_append_of_not_isSeparator first behind, List.append_nil]

/-- What a relation says of its left side is so of each member of a related list. -/
theorem forall_mem_of_forall₂ {α β : Type} {r : α → β → Prop} {p : α → Prop} {l : List α}
    {u : List β} (h : List.Forall₂ r l u) (imp : ∀ {a b}, r a b → p a) : ∀ a ∈ l, p a :=
  ((List.forall₂_and_left l u).1 (h.imp fun _ _ related => ⟨imp related, related⟩)).1

/-! ## The octet of a group -/

/-- Two digits and the octet that they denote. -/
inductive TwoDigits : List Char → UInt8 → Prop where
  | intro {hi lo : Char} {h l : Nat} {b : UInt8} (high : IsDigit hi h) (low : IsDigit lo l)
      (value : b.toNat = 16 * h + l) : TwoDigits [hi, lo] b

/-- A plus sign and a digit, and the octet that the digit denotes. -/
inductive SignedDigit : List Char → UInt8 → Prop where
  | intro {c : Char} {b : UInt8} (digit : IsDigit c b.toNat) : SignedDigit ['+', c] b

/-- A group that stands for an octet. -/
inductive StandsFor (g : List Char) (b : UInt8) : Prop where
  | digits (h : TwoDigits g b)
  | signed (h : SignedDigit g b)

theorem not_isDigit_plus (n : Nat) : ¬ IsDigit '+' n := by
  rw [← value?_eq_some_iff]
  exact nofun

/-- Neither digits nor the plus sign separate groups. -/
theorem isSeparator_eq_false {c : Char} (h : (∃ n, IsDigit c n) ∨ c = '+') :
    isSeparator c = false := by
  by_contra separates
  rcases isSeparator_iff.1 (Bool.not_eq_false _ ▸ separates) with rfl | rfl
  all_goals
    rcases h with ⟨n, digit⟩ | same
    · rw [← value?_eq_some_iff] at digit
      cases digit
    · cases same

/-- A group is read just if it stands for an octet. -/
theorem octet?_eq_some_iff {g : List Char} {b : UInt8} :
    octet? g = some b ↔ StandsFor g b := by
  constructor
  · intro h
    match g with
    | [hi, lo] =>
      rw [octet?] at h
      split at h
      · next plus =>
        obtain ⟨n, low, rfl⟩ := Option.map_eq_some_iff.1 h
        have digit := value?_eq_some_iff.1 low
        refine .signed (plus ▸ .intro ?_)
        rwa [UInt8.toNat_ofNat_of_lt' (Nat.lt_trans digit.lt (by decide))]
      · obtain ⟨h', high, h⟩ := Option.bind_eq_some_iff.1 h
        obtain ⟨l, low, rfl⟩ := Option.map_eq_some_iff.1 h
        have high := value?_eq_some_iff.1 high
        have low := value?_eq_some_iff.1 low
        have fits : 16 * h' + l < 2 ^ 8 := by
          have := high.lt
          have := low.lt
          omega
        exact .digits (.intro high low (UInt8.toNat_ofNat_of_lt' fits))
    | [] | [_] | _ :: _ :: _ :: _ => cases h
  · rintro (digits | signed)
    · cases digits with
      | @intro hi lo h l _ high low value =>
        have unsigned : hi ≠ '+' := by
          rintro rfl
          exact not_isDigit_plus h high
        rw [octet?, if_neg unsigned, value?_eq_some_iff.2 high, value?_eq_some_iff.2 low,
          Option.bind_some, Option.map_some, ← value, UInt8.ofNat_toNat]
    · cases signed with
      | intro digit =>
        rw [octet?, if_pos rfl, value?_eq_some_iff.2 digit, Option.map_some, UInt8.ofNat_toNat]

/-- The octets of some groups. -/
theorem mapM_octet?_eq_some_iff {gs : List (List Char)} {bs : Bytes} :
    gs.mapM octet? = some bs ↔ List.Forall₂ StandsFor gs bs := by
  induction gs generalizing bs with
  | nil => simp [eq_comm]
  | cons g gs ih =>
    simp only [List.mapM_cons, Option.bind_eq_bind, Option.bind_eq_some_iff, octet?_eq_some_iff,
      ih, Option.pure_def, Option.some_inj, List.forall₂_cons_left_iff]
    constructor
    · rintro ⟨b, first, bs', others, rfl⟩
      exact ⟨b, bs', first, others, rfl⟩
    · rintro ⟨b, bs', first, others, rfl⟩
      exact ⟨b, first, bs', others, rfl⟩

/-- The characters of a group that stands for an octet are digits, but for the plus sign. -/
theorem StandsFor.digit_or_plus {g : List Char} {b : UInt8} (h : StandsFor g b) {c : Char}
    (mem : c ∈ g) : (∃ n, IsDigit c n) ∨ c = '+' := by
  rcases h with digits | signed
  · cases digits with
    | intro high low =>
      rcases List.mem_pair.1 mem with rfl | rfl
      · exact .inl ⟨_, high⟩
      · exact .inl ⟨_, low⟩
  · cases signed with
    | intro digit =>
      rcases List.mem_pair.1 mem with rfl | rfl
      · exact .inr rfl
      · exact .inl ⟨_, digit⟩

theorem TwoDigits.plus_notMem {g : List Char} {b : UInt8} (h : TwoDigits g b) : '+' ∉ g := by
  cases h with
  | intro high low =>
    intro plus
    rcases List.mem_pair.1 plus with rfl | rfl
    · exact not_isDigit_plus _ high
    · exact not_isDigit_plus _ low

theorem SignedDigit.plus_mem {g : List Char} {b : UInt8} (h : SignedDigit g b) : '+' ∈ g := by
  cases h with
  | intro => exact List.mem_cons_self

/-! ## Addresses -/

/-- The digits of an address: six groups of two with a separator between each and the next. -/
def Denotes (text : String) (addr : HwAddr) : Prop :=
  ∃ gs, Separated gs text.toList ∧ List.Forall₂ TwoDigits gs addr.toBytes

theorem ofBytes?_eq_some_iff {bs : Bytes} {addr : HwAddr} :
    ofBytes? bs = some addr ↔ bs = addr.toBytes := by
  constructor
  · intro h
    unfold ofBytes? at h
    split at h
    · cases h
      rfl
    · cases h
  · rintro rfl
    rfl

/-- A text is read as an address just if it is made up of groups that stand for its octets. -/
theorem ofText?_eq_some_iff {text : String} {addr : HwAddr} :
    ofText? text = some addr ↔
      ∃ gs, Separated gs text.toList ∧ List.Forall₂ StandsFor gs addr.toBytes := by
  simp only [ofText?, ofChars?, Option.bind_eq_some_iff, mapM_octet?_eq_some_iff,
    ofBytes?_eq_some_iff, exists_eq_right]
  constructor
  · intro octets
    exact ⟨_, (groups_eq_iff.1 rfl).1, octets⟩
  · rintro ⟨gs, separated, octets⟩
    have within : ∀ g ∈ gs, ∀ c ∈ g, isSeparator c = false :=
      forall_mem_of_forall₂ octets fun octet c mem =>
        isSeparator_eq_false (octet.digit_or_plus mem)
    rwa [groups_eq_iff.2 ⟨separated, within⟩]

/-- No plus sign is among the digits of an address. -/
theorem Denotes.plus_notMem {text : String} {addr : HwAddr} (h : Denotes text addr) :
    '+' ∉ text.toList := by
  obtain ⟨gs, separated, digits⟩ := h
  have within : ∀ g ∈ gs, '+' ∉ g := forall_mem_of_forall₂ digits TwoDigits.plus_notMem
  rw [separated.mem_iff (by decide)]
  rintro ⟨g, mem, plus⟩
  exact within g mem plus

/-- The digits of an address are read as that address. -/
theorem Denotes.ofText?_eq_some {text : String} {addr : HwAddr} (h : Denotes text addr) :
    ofText? text = some addr := by
  obtain ⟨gs, separated, digits⟩ := h
  exact ofText?_eq_some_iff.2 ⟨gs, separated, digits.imp fun _ _ => .digits⟩

/-- A text with no plus sign in it is read just if it is the digits of an address. -/
theorem denotes_of_ofText?_eq_some {text : String} {addr : HwAddr}
    (h : ofText? text = some addr) (unsigned : '+' ∉ text.toList) : Denotes text addr := by
  obtain ⟨gs, separated, octets⟩ := ofText?_eq_some_iff.1 h
  have within : ∀ g ∈ gs, '+' ∉ g := fun g mem plus =>
    unsigned ((separated.mem_iff (by decide)).2 ⟨g, mem, plus⟩)
  refine ⟨gs, separated, ((List.forall₂_and_left gs _).2 ⟨within, octets⟩).imp ?_⟩
  rintro g b ⟨without, digits | signed⟩
  · exact digits
  · exact absurd signed.plus_mem without

/-- **Which texts are addresses.** A text is read as an address just if it is groups with a `:` or a
`-` between each and the next, and the groups stand for the octets of the address, one each: two
hexadecimal digits, or a plus sign and one digit. So the digits of an address are read as that
address. Nothing else is read, unless there is a plus sign in what was read. -/
theorem text_read (text : String) :
    (∀ addr, ofText? text = some addr ↔
      ∃ gs, Separated gs text.toList ∧ List.Forall₂ StandsFor gs addr.toBytes) ∧
    (∀ addr, Denotes text addr → ofText? text = some addr) ∧
    ((∀ addr, ofText? text = some addr ↔ Denotes text addr) ↔
      ¬ ((ofText? text).isSome = true ∧ '+' ∈ text.toList)) := by
  refine ⟨fun addr => ofText?_eq_some_iff, fun addr digits => digits.ofText?_eq_some, ?_, ?_⟩
  · rintro precise ⟨read, plus⟩
    obtain ⟨addr, read⟩ := Option.isSome_iff_exists.1 read
    exact ((precise addr).1 read).plus_notMem plus
  · intro unsigned addr
    refine ⟨fun read => denotes_of_ofText?_eq_some read fun plus => ?_, Denotes.ofText?_eq_some⟩
    exact unsigned ⟨read ▸ rfl, plus⟩

/-- Six signed numbers are read as an address, though they are the digits of none. -/
theorem signs_read :
    ofText? "+1:+2:+3:+4:+5:+6" = some ⟨1, 2, 3, 4, 5, 6⟩ ∧
      ∀ addr, ¬ Denotes "+1:+2:+3:+4:+5:+6" addr :=
  ⟨by decide +kernel, fun _ digits => digits.plus_notMem (by decide +kernel)⟩

end HwAddr

end Airlink
