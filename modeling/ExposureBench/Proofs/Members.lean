import ExposureBench.Json.Decode
import Mathlib

/-!
The members of an object as the fields of a record: what is read depends on the value given for
each field alone.
-/

namespace ExposureBench

namespace Json

abbrev Members := List (Text × Json)

/-- The name of every member is text, and no field is named by two of them. -/
structure Named (fields : List String) (members : Members) : Prop where
  spelled : ∀ member ∈ members, member.1.isSome
  once : ∀ field ∈ fields, (members.map Prod.fst).count (some field) ≤ 1

instance (fields : List String) (members : Members) : Decidable (Named fields members) :=
  decidable_of_iff
    ((∀ member ∈ members, member.1.isSome) ∧
      ∀ field ∈ fields, (members.map Prod.fst).count (some field) ≤ 1)
    ⟨fun ⟨spelled, once⟩ => ⟨spelled, once⟩, fun ⟨spelled, once⟩ => ⟨spelled, once⟩⟩

def spell (named : Record) : Members :=
  named.map fun (name, j) => (some name, j)

def known (fields : List String) (named : Record) : Record :=
  named.filter fun (name, _) => fields.contains name

section Known

variable {fields : List String} {named : Record} {members : Members} {name field : String} {j : Json}

theorem spell_cons : spell ((name, j) :: named) = (some name, j) :: spell named := rfl

theorem names_spell : (spell named).map Prod.fst = (named.map Prod.fst).map some := by
  rw [spell, List.map_map, List.map_map]
  rfl

theorem known_cons_of_mem (field : name ∈ fields) :
    known fields ((name, j) :: named) = (name, j) :: known fields named :=
  List.filter_cons_of_pos (List.contains_iff_mem.mpr field)

theorem known_cons_of_not_mem (other : name ∉ fields) :
    known fields ((name, j) :: named) = known fields named :=
  List.filter_cons_of_neg fun field => other (List.contains_iff_mem.mp field)

theorem mapM_map {α β : Type} {put : α → β} {take? : β → Option α} {items : List α}
    (back : ∀ a ∈ items, take? (put a) = some a) : (items.map put).mapM take? = some items := by
  induction items with
  | nil => rfl
  | cons a items ih =>
    have later := ih fun b member => back b (List.mem_cons_of_mem a member)
    rw [List.map_cons, List.mapM_cons, back a List.mem_cons_self, later]
    rfl

theorem members?_spell :
    members? fields (spell named) =
      if ((known fields named).map Prod.fst).Nodup then some (known fields named) else none := by
  calc
    members? fields (spell named) = (some named).bind _ :=
      congrArg (Option.bind · _) (mapM_map fun _ _ => rfl)
    _ = _ := rfl

theorem exists_spell (spelled : ∀ member ∈ members, member.1.isSome) :
    ∃ named, members = spell named := by
  induction members with
  | nil => exact ⟨[], rfl⟩
  | cons member members ih =>
    obtain ⟨named, rfl⟩ := ih fun other inside => spelled other (List.mem_cons_of_mem member inside)
    obtain ⟨name, text⟩ := Option.isSome_iff_exists.mp (spelled member List.mem_cons_self)
    exact ⟨(name, member.2) :: named, congrArg (fun name => (name, member.2) :: spell named) text⟩

theorem spelled_of_members? {r : Record} (read : members? fields members = some r) :
    ∀ member ∈ members, member.1.isSome := by
  obtain ⟨named, found, -⟩ := Option.bind_eq_some_iff.mp read
  clear read
  induction members generalizing named with
  | nil => exact List.forall_mem_nil _
  | cons member members ih =>
    rw [List.mapM_cons] at found
    obtain ⟨first, text, others⟩ := Option.bind_eq_some_iff.mp found
    obtain ⟨later, found, -⟩ := Option.bind_eq_some_iff.mp others
    obtain ⟨name, spelled, -⟩ := Option.map_eq_some_iff.mp text
    refine List.forall_mem_cons.mpr ⟨?_, ih later found⟩
    rw [spelled, Option.isSome_some]

theorem count_known (asked : field ∈ fields) :
    ((known fields named).map Prod.fst).count field =
      ((spell named).map Prod.fst).count (some field) := by
  induction named with
  | nil => rfl
  | cons member named ih =>
    obtain ⟨name, j⟩ := member
    rw [spell_cons, List.map_cons]
    by_cases same : name ∈ fields
    · rw [known_cons_of_mem same, List.map_cons, List.count_cons, List.count_cons, ih]
      simp
    · have other : some name ≠ some field := fun equal => same (Option.some.inj equal ▸ asked)
      rw [known_cons_of_not_mem same, ih, List.count_cons_of_ne other]

theorem nodup_known :
    ((known fields named).map Prod.fst).Nodup ↔
      ∀ field ∈ fields, ((spell named).map Prod.fst).count (some field) ≤ 1 := by
  rw [List.nodup_iff_count_le_one]
  constructor
  · intro least field asked
    rw [← count_known asked]
    exact least field
  · intro once field
    by_cases asked : field ∈ fields
    · rw [count_known asked]
      exact once field asked
    · have absent : field ∉ (known fields named).map Prod.fst := by
        simp [known, asked]
      rw [List.count_eq_zero_of_not_mem absent]
      exact Nat.zero_le 1

theorem lookup_cons_ne {α : Type} [BEq α] [LawfulBEq α] {a b : α} {record : List (α × Json)}
    (other : a ≠ b) : ((b, j) :: record).lookup a = record.lookup a := by
  rw [List.lookup_cons, beq_eq_false_iff_ne.mpr other]

theorem lookup_known (asked : field ∈ fields) :
    (known fields named).lookup field = (spell named).lookup (some field) := by
  induction named with
  | nil => rfl
  | cons member named ih =>
    obtain ⟨name, j⟩ := member
    rw [spell_cons]
    by_cases same : field = name
    · subst same
      rw [known_cons_of_mem asked, List.lookup_cons_self, List.lookup_cons_self]
    · have apart : some field ≠ some name := fun equal => same (Option.some.inj equal)
      rw [lookup_cons_ne apart, ← ih]
      by_cases other : name ∈ fields
      · rw [known_cons_of_mem other, lookup_cons_ne same]
      · rw [known_cons_of_not_mem other]

theorem named_of_members? {r : Record} (read : members? fields members = some r) :
    Named fields members := by
  obtain ⟨named, rfl⟩ := exists_spell (spelled_of_members? read)
  refine ⟨spelled_of_members? read, nodup_known.mp ?_⟩
  rw [members?_spell] at read
  by_contra repeated
  rw [if_neg repeated] at read
  cases read

theorem members?_of_named (named : Named fields members) :
    ∃ r, members? fields members = some r ∧
      ∀ field ∈ fields, r.lookup field = members.lookup (some field) := by
  obtain ⟨record, rfl⟩ := exists_spell named.spelled
  refine ⟨_, ?_, fun field known => lookup_known known⟩
  rw [members?_spell, if_pos (nodup_known.mpr named.once)]

end Known

/-! Fields with defaults -/

/-- A field of a record: its name, the values it accepts, and where the record holds its own. -/
structure Field (σ : Type) where
  {Value : Type}
  name : String
  accept? : Json → Option Value
  value : σ → Value

variable {σ : Type} {default : σ} {members : Members}

def Field.read? (f : Field σ) (default : σ) (members : Members) : Option f.Value :=
  match members.lookup (some f.name) with
  | none => some (f.value default)
  | some j => f.accept? j

theorem Field.read?_of_none {f : Field σ} (absent : members.lookup (some f.name) = none) :
    f.read? default members = some (f.value default) := by
  rw [Field.read?, absent]

theorem Field.read?_of_some {f : Field σ} {j : Json} (given : members.lookup (some f.name) = some j) :
    f.read? default members = f.accept? j := by
  rw [Field.read?, given]

theorem Field.read?_of_lookup (f : Field σ) {r : Record}
    (same : r.lookup f.name = members.lookup (some f.name)) :
    r.fieldD? f.name (f.value default) f.accept? = f.read? default members := by
  cases given : members.lookup (some f.name) with
  | none => rw [Record.fieldD?, same, given, Field.read?_of_none given]
  | some j => rw [Record.fieldD?, same, given, Field.read?_of_some given]

theorem Field.isSome_read? (f : Field σ) : (f.read? default members).isSome ↔
    ∀ j, members.lookup (some f.name) = some j → (f.accept? j).isSome := by
  cases given : members.lookup (some f.name) with
  | none =>
    rw [Field.read?_of_none given]
    exact iff_of_true rfl fun _ => nofun
  | some j =>
    rw [Field.read?_of_some given]
    exact ⟨fun accepted _ same => Option.some.inj same ▸ accepted, fun all => all j rfl⟩

/-- Reads a record, field by field, over a default. -/
structure Overlay {σ : Type} (default : σ) where
  fields : List (Field σ)
  read? : Json → Option σ
  /-- A record is read if it holds in each field what the members give for that. -/
  reads : ∀ members s, read? (.object members) = some s ↔
    Named (fields.map Field.name) members ∧ ∀ f ∈ fields, f.read? default members = some (f.value s)
  /-- Any values of the fields make up a record. -/
  complete : ∀ choice : (f : Field σ) → f.Value, ∃ s, ∀ f ∈ fields, f.value s = choice f

theorem reads_of_assembles {fields : List (Field σ)} {read? : Json → Option σ}
    {assemble? : Record → Option σ}
    (split : ∀ members, read? (.object members) =
      (members? (fields.map Field.name) members).bind assemble?)
    (assembles : ∀ r s, assemble? r = some s ↔
      ∀ f ∈ fields, r.fieldD? f.name (f.value default) f.accept? = some (f.value s))
    (members : Members) (s : σ) :
    read? (.object members) = some s ↔
      Named (fields.map Field.name) members ∧
        ∀ f ∈ fields, f.read? default members = some (f.value s) := by
  rw [split]
  constructor
  · intro read
    obtain ⟨r, found, built⟩ := Option.bind_eq_some_iff.mp read
    have named := named_of_members? found
    obtain ⟨r', found', same⟩ := members?_of_named named
    cases found.symm.trans found'
    refine ⟨named, fun f known => ?_⟩
    rw [← f.read?_of_lookup (same f.name (List.mem_map_of_mem known))]
    exact (assembles r s).mp built f known
  · rintro ⟨named, all⟩
    obtain ⟨r, found, same⟩ := members?_of_named named
    refine Option.bind_eq_some_iff.mpr ⟨r, found, (assembles r s).mpr fun f known => ?_⟩
    rw [f.read?_of_lookup (same f.name (List.mem_map_of_mem known))]
    exact all f known

namespace Overlay

variable (o : Overlay default)

def names : List String := o.fields.map Field.name

theorem isSome_read? : (o.read? (.object members)).isSome ↔
    Named o.names members ∧ ∀ f ∈ o.fields, (f.read? default members).isSome := by
  constructor
  · intro read
    obtain ⟨s, read⟩ := Option.isSome_iff_exists.mp read
    obtain ⟨named, all⟩ := (o.reads members s).mp read
    exact ⟨named, fun f known => Option.isSome_iff_exists.mpr ⟨_, all f known⟩⟩
  · rintro ⟨named, all⟩
    -- A choice covers every field there is, but only those of the record count, and they all read.
    obtain ⟨s, chosen⟩ := o.complete fun f => (f.read? default members).getD (f.value default)
    refine Option.isSome_iff_exists.mpr ⟨s, (o.reads members s).mpr ⟨named, fun f known => ?_⟩⟩
    obtain ⟨v, read⟩ := Option.isSome_iff_exists.mp (all f known)
    rw [chosen f known, read, Option.getD_some]

theorem read?_nil : o.read? (.object []) = some default :=
  (o.reads [] default).mpr
    ⟨⟨List.forall_mem_nil _, fun _ _ => Nat.zero_le 1⟩, fun _ _ => rfl⟩

end Overlay

/-! Members in another order -/

/-- Members that say the same: in another order, with more or fewer that no field has, and with values
that mean the same to their field. -/
inductive Rearranged (fields : List String) (means : String → Json → Json → Prop) :
    Members → Members → Prop
  | order {first second : Members} (perm : first.Perm second) : Rearranged fields means first second
  | unknown {name : String} (other : name ∉ fields) (j : Json) (members : Members) :
    Rearranged fields means ((some name, j) :: members) members
  | within {name : String} {j k : Json} (same : means name j k) (members : Members) :
    Rearranged fields means ((some name, j) :: members) ((some name, k) :: members)
  | symm {first second : Members} (back : Rearranged fields means first second) :
    Rearranged fields means second first
  | trans {first second third : Members} (early : Rearranged fields means first second)
    (late : Rearranged fields means second third) : Rearranged fields means first third

theorem lookup_eq_some_iff_mem {name : Text} {j : Json} (once : (members.map Prod.fst).count name ≤ 1) :
    members.lookup name = some j ↔ (name, j) ∈ members := by
  induction members with
  | nil => simp
  | cons member members ih =>
    obtain ⟨other, k⟩ := member
    rw [List.map_cons] at once
    by_cases same : name = other
    · subst same
      rw [List.count_cons_self] at once
      have absent : name ∉ members.map Prod.fst := List.count_eq_zero.mp (by omega)
      have later : (name, j) ∉ members := fun inside => absent (List.mem_map_of_mem inside)
      rw [List.lookup_cons_self, List.mem_cons, or_iff_left later, Option.some.injEq, Prod.mk.injEq]
      exact ⟨fun equal => ⟨rfl, equal.symm⟩, fun equal => equal.2.symm⟩
    · rw [List.count_cons_of_ne (Ne.symm same)] at once
      have apart : (name, j) ≠ (other, k) := fun equal => same (congrArg Prod.fst equal)
      rw [lookup_cons_ne same, ih once, List.mem_cons, or_iff_right apart]

theorem lookup_of_perm {first second : Members} {name : Text} (perm : first.Perm second)
    (once : (first.map Prod.fst).count name ≤ 1) : first.lookup name = second.lookup name := by
  have once' : (second.map Prod.fst).count name ≤ 1 := (perm.map Prod.fst).count_eq name ▸ once
  ext j
  rw [lookup_eq_some_iff_mem once, lookup_eq_some_iff_mem once', perm.mem_iff]

theorem Named.of_perm {fields : List String} {first second : Members}
    (perm : (first.map Prod.fst).Perm (second.map Prod.fst)) (named : Named fields first) :
    Named fields second where
  spelled := by
    have spelled : ∀ name ∈ first.map Prod.fst, name.isSome := List.forall_mem_map.mpr named.spelled
    exact List.forall_mem_map.mp fun name inside => spelled name (perm.mem_iff.mpr inside)
  once field known := perm.count_eq (some field) ▸ named.once field known

theorem named_congr {fields : List String} {first second : Members}
    (perm : (first.map Prod.fst).Perm (second.map Prod.fst)) :
    Named fields first ↔ Named fields second :=
  ⟨.of_perm perm, .of_perm perm.symm⟩

theorem named_cons_unknown {fields : List String} {name : String} (other : name ∉ fields) (j : Json) :
    Named fields ((some name, j) :: members) ↔ Named fields members := by
  have count : ∀ field ∈ fields, (((some name, j) :: members).map Prod.fst).count (some field) =
      (members.map Prod.fst).count (some field) := by
    intro field known
    rw [List.map_cons, List.count_cons_of_ne]
    intro same
    exact other (Option.some.inj same ▸ known)
  constructor
  · rintro ⟨spelled, once⟩
    exact ⟨(List.forall_mem_cons.mp spelled).2, fun field known => count field known ▸ once field known⟩
  · rintro ⟨spelled, once⟩
    exact ⟨List.forall_mem_cons.mpr ⟨rfl, spelled⟩,
      fun field known => (count field known).symm ▸ once field known⟩

namespace Overlay

variable (o : Overlay default) {means : String → Json → Json → Prop} {first second : Members}

theorem read?_fields_rearranged
    (respects : ∀ f ∈ o.fields, ∀ j k, means f.name j k → f.accept? j = f.accept? k)
    (rearranged : Rearranged o.names means first second) :
    (Named o.names first ↔ Named o.names second) ∧
      (Named o.names first → ∀ f ∈ o.fields, f.read? default first = f.read? default second) := by
  -- Of a field named twice another order would find another value, so both parts go together.
  induction rearranged with
  | order perm =>
    refine ⟨named_congr (perm.map Prod.fst), fun named f known => ?_⟩
    rw [Field.read?, lookup_of_perm perm (named.once f.name (List.mem_map_of_mem known)), Field.read?]
  | @unknown name other j members =>
    refine ⟨named_cons_unknown other j, fun _ f known => ?_⟩
    have asked : f.name ∈ o.names := List.mem_map_of_mem known
    have apart : some f.name ≠ some name := fun same => other (Option.some.inj same ▸ asked)
    rw [Field.read?, lookup_cons_ne apart, Field.read?]
  | @within name j k same members =>
    refine ⟨named_congr (.refl _), fun _ f known => ?_⟩
    by_cases found : f.name = name
    · subst found
      rw [Field.read?, List.lookup_cons_self, Field.read?, List.lookup_cons_self]
      exact respects f known j k same
    · have apart : some f.name ≠ some name := fun equal => found (Option.some.inj equal)
      rw [Field.read?, lookup_cons_ne apart, Field.read?, lookup_cons_ne apart]
  | symm _ ih => exact ⟨ih.1.symm, fun named f known => (ih.2 (ih.1.mpr named) f known).symm⟩
  | trans _ _ early late =>
    exact ⟨early.1.trans late.1, fun named f known =>
      (early.2 named f known).trans (late.2 (early.1.mp named) f known)⟩

theorem read?_rearranged (respects : ∀ f ∈ o.fields, ∀ j k, means f.name j k → f.accept? j = f.accept? k)
    (rearranged : Rearranged o.names means first second) :
    o.read? (.object first) = o.read? (.object second) := by
  obtain ⟨named, same⟩ := o.read?_fields_rearranged respects rearranged
  ext s
  rw [o.reads, o.reads]
  constructor
  · rintro ⟨spelled, all⟩
    exact ⟨named.mp spelled, fun f known => (same spelled f known).symm.trans (all f known)⟩
  · rintro ⟨spelled, all⟩
    exact ⟨named.mpr spelled, fun f known => (same (named.mpr spelled) f known).trans (all f known)⟩

end Overlay

end Json

end ExposureBench
