/-
# Proofs.Json.Records -- what is written field by field is read field by field

A record is written under keys of its own, and what has nothing to say is left out.  Its
fields are found as they were written (`Fields.ofMembers?_of_within`), and so are a tag and
its content (`Tagging.ofMembers?_tagged`).  Only numbers can be in the way of a copy.
-/
import SensorMonitor.Json.Decode
import SensorMonitor.Proofs.Json.Reading

namespace SensorMonitor

set_option autoImplicit false

/-! ## Lists of which every item can be read -/

theorem mapM_congr {α β : Type} {f g : α → Option β} {list : List α}
    (same : ∀ a ∈ list, f a = g a) : list.mapM f = list.mapM g := by
  induction list with
  | nil => rfl
  | cons a rest ih =>
      obtain ⟨here, later⟩ := List.forall_mem_cons.1 same
      rw [List.mapM_cons, List.mapM_cons, here, ih later]

theorem mapM_eq_some_self {α : Type} {f : α → Option α} {list : List α}
    (all : ∀ a ∈ list, f a = some a) : list.mapM f = some list :=
  (mapM_congr all).trans ((List.mapM_pure (f := id)).trans (congrArg some (List.map_id list)))

/-- A list is read if every item is. -/
theorem isSome_mapM {α β : Type} {f : α → Option β} {list : List α} :
    (list.mapM f).isSome = true ↔ ∀ a ∈ list, (f a).isSome = true := by
  induction list with
  | nil => simp
  | cons a rest ih =>
      rw [List.mapM_cons, List.forall_mem_cons, ← ih]
      cases f a <;> cases rest.mapM f <;> simp

/-- What a list is read as, item by item. -/
theorem forall₂_of_mapM_eq_some {α β : Type} {f : α → Option β} {list : List α} {out : List β}
    (done : list.mapM f = some out) : List.Forall₂ (fun a b => f a = some b) list out := by
  induction list generalizing out with
  | nil =>
      cases done
      exact .nil
  | cons a rest ih =>
      rw [List.mapM_cons] at done
      obtain ⟨b, here, done⟩ := Option.bind_eq_some_iff.1 done
      obtain ⟨bs, later, done⟩ := Option.bind_eq_some_iff.1 done
      cases done
      exact .cons here (ih later)

/-- Whatever stands on one side of a pairing has a partner on the other. -/
theorem exists_of_forall₂ {α β : Type} {R : α → β → Prop} {list : List α} {out : List β}
    (pairs : List.Forall₂ R list out) {b : β} (member : b ∈ out) : ∃ a ∈ list, R a b := by
  induction pairs with
  | nil => cases member
  | cons here _ ih =>
      rcases List.mem_cons.1 member with rfl | later
      · exact ⟨_, List.mem_cons_self, here⟩
      · obtain ⟨a, there, related⟩ := ih later
        exact ⟨a, List.mem_cons_of_mem _ there, related⟩

namespace Json

/-! ## Simple values -/

@[simp] theorem text?_text (s : String) : text? (.text s) = some s := rfl

@[simp] theorem bool?_bool (b : Bool) : bool? (.bool b) = some b := rfl

@[simp] theorem variant?_text (source : Source) (s : String) :
    variant? source (.text s) = some s := rfl

@[simp] theorem items?_array (items : List Json) : items? (.array items) = some items := rfl

theorem natUpTo?_nat {n largest : Nat} (fits : n ≤ largest) (limit : largest ≤ largestSignificand) :
    natUpTo? largest (.nat n) = some n := by
  show (Numeral.toNat? _).filter _ = _
  rw [toNat?_nat (Nat.le_trans fits limit)]
  simp [Option.filter, fits]

theorem le_of_natUpTo? {j : Json} {n largest : Nat} (read : natUpTo? largest j = some n) :
    n ≤ largest := by
  cases j with
  | number numeral => simpa using (Option.filter_eq_some_iff.1 read).2
  | null | bool b | string s | array items | object members => cases read

/-- The float that the number of a float is read as. -/
def reread? (x : Float) : Option Float := float? (.float x)

@[simp] theorem float?_float (x : Float) : float? (.float x) = reread? x := rfl

@[simp] theorem legible_text (s : String) : Legible (.text s) := .string s

@[simp] theorem legible_bool (b : Bool) : Legible (.bool b) := .bool b

@[simp] theorem legible_natural (n : Nat) : Legible (.nat n) := .number (legible_nat n)

@[simp] theorem legible_float (x : Float) : Legible (.float x) := by
  unfold float
  cases written : Numeral.ofFloat? x with
  | none => exact .null
  | some n => exact .number (Numeral.legible_ofFloat? written)

/-! ## Members -/

theorem members?_ofMembers (members : List (String × Json)) :
    members? (ofMembers members) = some members := by
  show (members.map fun member => (some member.1, member.2)).mapM _ = _
  rw [List.mapM_map]
  exact mapM_eq_some_self fun _ _ => rfl

/-- The fields of an object are found among its members. -/
theorem Fields.ofObject?_ofMembers (names : List String) (members : List (String × Json)) :
    ofObject? names (ofMembers members) = ofMembers? names members := by
  unfold ofObject?
  rw [members?_ofMembers, Option.bind_some]

theorem Fields.of?_ofMembers (names : List String) (members : List (String × Json)) :
    of? names (ofMembers members) = ofMembers? names members :=
  ofObject?_ofMembers names members

theorem legible_ofMembers {members : List (String × Json)} (all : ∀ m ∈ members, Legible m.2) :
    Legible (ofMembers members) := by
  refine .object (fun m member => ?_) (fun m member => ?_)
  · obtain ⟨m', -, rfl⟩ := List.mem_map.1 member
    rfl
  · obtain ⟨m', here, rfl⟩ := List.mem_map.1 member
    exact all m' here

@[simp] theorem lookup_optionalMember {α : Type} (key : String) (encode : α → Json) (o : Option α) :
    (optionalMember key encode o).lookup key = o.map encode := by
  cases o <;> simp [optionalMember]

@[simp] theorem lookup_optionalMember_of_ne {α : Type} {key other : String} (ne : other ≠ key)
    (encode : α → Json) (o : Option α) : (optionalMember key encode o).lookup other = none := by
  cases o <;> simp [optionalMember, ne]

theorem legible_optionalMember {α : Type} {key : String} {encode : α → Json} {o : Option α}
    (all : ∀ a ∈ o, Legible (encode a)) : ∀ m ∈ optionalMember key encode o, Legible m.2 := by
  cases o with
  | none => exact List.forall_mem_nil _
  | some a => exact List.forall_mem_singleton.2 (all a rfl)

/-- The members stand under some of the names, in their order. -/
def Within (members : List (String × Json)) (names : List String) : Prop :=
  (members.map Prod.fst).Sublist names

namespace Within

variable {members : List (String × Json)} {names : List String}

theorem refl (members : List (String × Json)) : Within members (members.map Prod.fst) :=
  List.Sublist.refl _

theorem append (within : Within members names) {more : List (String × Json)} :
    Within (members ++ more) (names ++ more.map Prod.fst) := by
  unfold Within
  rw [List.map_append]
  exact List.Sublist.append within (List.Sublist.refl _)

/-- A member that may be left out stands under its key or not at all. -/
theorem optional (within : Within members names) {α : Type} {key : String} {encode : α → Json}
    {o : Option α} : Within (members ++ optionalMember key encode o) (names ++ [key]) := by
  unfold Within
  rw [List.map_append]
  refine List.Sublist.append within ?_
  cases o <;> simp [optionalMember]

end Within

/-- **The fields of a record are found as they were written**, in their order and some of them
left out. -/
theorem Fields.ofMembers?_of_within {names : List String} {members : List (String × Json)}
    (distinct : names.Nodup) (within : Within members names) :
    ofMembers? names members = some ⟨false, members⟩ := by
  have known : (members.filter fun member => names.contains member.1) = members :=
    List.filter_eq_self.2 fun m member =>
      List.contains_iff_mem.2 (List.Sublist.subset within (List.mem_map_of_mem member))
  unfold ofMembers?
  rw [known]
  exact if_pos (List.Sublist.nodup within distinct)

/-- A value that is read is no `null`. -/
theorem Fields.orNull_eq_some {α : Type} {decode : Json → Option α} (null : decode .null = none)
    {j : Json} {a : α} (read : decode j = some a) : orNull decode j = some (some a) := by
  cases j with
  | null => cases null.symm.trans read
  | bool b | number n | string s | array items | object members => simp [orNull, read]

/-- A field that may be missing, where it was left out if there was nothing to say. -/
theorem Fields.optional_of_lookup {α : Type} {fields : Fields} {name : String}
    (encode : α → Json) {decode : Json → Option α} {o : Option α}
    (found : fields.entries.lookup name = o.map encode) (null : decode .null = none)
    (read : ∀ a ∈ o, decode (encode a) = some a) : fields.optional name decode = some o := by
  unfold optional defaulted
  rw [found]
  cases o with
  | none => rfl
  | some a => exact orNull_eq_some null (read a rfl)

/-- What every value that is read has, a field has. -/
theorem Fields.of_required {α : Type} {P : α → Prop} {fields : Fields} {name : String}
    {decode : Json → Option α} {a : α} (each : ∀ {j : Json} {a : α}, decode j = some a → P a)
    (read : fields.required name decode = some a) : P a := by
  obtain ⟨j, -, read⟩ := Option.bind_eq_some_iff.1 read
  exact each read

theorem Fields.of_defaulted {α : Type} {P : α → Prop} {fields : Fields} {name : String}
    {decode : Json → Option α} {default a : α} (usual : P default)
    (each : ∀ {j : Json} {a : α}, decode j = some a → P a)
    (read : fields.defaulted name default decode = some a) : P a := by
  unfold defaulted at read
  split at read
  · exact each read
  · exact Option.some.inj read ▸ usual

theorem Fields.of_optional {α : Type} {P : α → Prop} {fields : Fields} {name : String}
    {decode : Json → Option α} {o : Option α} (each : ∀ {j : Json} {a : α}, decode j = some a → P a)
    (read : fields.optional name decode = some o) : ∀ a ∈ o, P a := by
  refine of_defaulted (P := fun o => ∀ a ∈ o, P a) (by simp) (fun {j o} read => ?_) read
  cases j with
  | null => simp [← Option.some.inj read]
  | bool b | number n | string s | array items | object members =>
      obtain ⟨a, here, rfl⟩ := Option.map_eq_some_iff.1 read
      exact fun a' same => Option.some.inj same ▸ each here

/-! ## Tags -/

/-- A tag is read with the content behind it. -/
theorem Tagging.ofMembers?_tagged (tagging : Tagging) (source : Source) (tag : String)
    (content : Json) : tagging.ofMembers? source
      [(tagging.tagKey, .text tag), (tagging.contentKey, content)] =
        some ⟨tag, content, source.inner⟩ := by
  unfold ofMembers?
  rw [List.filter_eq_self.2 (by simp)]
  exact if_pos ⟨rfl, rfl⟩

theorem Tagging.read?_ofMembers (tagging : Tagging) (source : Source)
    (members : List (String × Json)) :
    tagging.read? source (ofMembers members) = tagging.ofMembers? source members := by
  show (members? (ofMembers members)).bind _ = _
  rw [members?_ofMembers, Option.bind_some]

/-! ## Copies -/

theorem copyableItems_iff {room : Nat} {items : List Json} :
    copyableItems room items = true ↔ ∀ item ∈ items, copyable room item = true := by
  induction items with
  | nil => simp [copyableItems]
  | cons item items ih => simp [copyableItems, ih]

theorem copyableMembers_iff {room : Nat} {members : List (Option String × Json)} :
    copyableMembers room members = true ↔
      ∀ m ∈ members, m.1.isSome = true ∧ copyable room m.2 = true := by
  induction members with
  | nil => simp [copyableMembers]
  | cons member members ih => simp [copyableMembers, ih]

theorem copyable_array {room : Nat} {items : List Json}
    (all : ∀ item ∈ items, copyable room item = true) :
    copyable (room + 1) (.array items) = true := by
  have inner : copyableItems room items = true := copyableItems_iff.2 all
  simpa [copyable] using inner

theorem copyable_ofMembers {room : Nat} {members : List (String × Json)}
    (all : ∀ m ∈ members, copyable room m.2 = true) :
    copyable (room + 1) (ofMembers members) = true := by
  have inner : copyableMembers room (members.map fun m => (some m.1, m.2)) = true :=
    copyableMembers_iff.2 (List.forall_mem_map.2 fun m here => ⟨rfl, all m here⟩)
  simpa [ofMembers, copyable] using inner

@[simp] theorem copyable_text (room : Nat) (s : String) : copyable room (.text s) = true := by
  simp [text, copyable]

@[simp] theorem copyable_bool (room : Nat) (b : Bool) : copyable room (.bool b) = true := by
  simp [copyable]

/-- A float can be copied if its number can be read. -/
theorem copyable_float {x : Float} (read : (reread? x).isSome = true) (room : Nat) :
    copyable room (.float x) = true := by
  unfold reread? float at read
  unfold float
  generalize Numeral.ofFloat? x = written at read ⊢
  cases written with
  | none => simp [copyable]
  | some n => simpa [copyable, float?] using read

end Json

end SensorMonitor
