import HomeHub.Proofs.Decoding.Layout
import HomeHub.Proofs.EntityId.Grammar
import HomeHub.Yaml.Decode
import Mathlib.Data.List.Forall2

/-!
Which YAML values are read, and as what. This is told of values as they come without tags, and with
each key once in a mapping.
-/

namespace HomeHub.Yaml

open Decoding (Layout Source)

/-- Without tags at any depth. A mapping has each key once, as all mappings of a document do. -/
inductive Plain : Yaml → Prop where
  | null : Plain .null
  | bool (b : Bool) : Plain (.bool b)
  | int (n : Int) : Plain (.int n)
  | float (x : Float) : Plain (.float x)
  | str (s : String) : Plain (.str s)
  | seq {items : List Yaml} (hitems : ∀ item ∈ items, Plain item) : Plain (.seq items)
  | map {entries : List (Yaml × Yaml)} (hkeys : ∀ entry ∈ entries, Plain entry.1)
    (hvalues : ∀ entry ∈ entries, Plain entry.2)
    (hdistinct : entries.Pairwise fun entry other => (entry.1 == other.1) = false) :
    Plain (.map entries)

variable {α β : Type}

/-! ### Forms of values -/

def IsSequence (v : Yaml) (items : List Yaml) : Prop :=
  v = .seq items ∨ v = .null ∧ items = []

def IsMapping (v : Yaml) (entries : List (Yaml × Yaml)) : Prop :=
  v = .map entries ∨ v = .null ∧ entries = []

def IsRecord (v : Yaml) (names : List String) : Prop :=
  ∃ entries, v.IsMapping entries ∧ ∀ entry ∈ entries, ∃ name ∈ names, entry.1 = .str name

def Given (v : Yaml) (name : String) (x : Yaml) : Prop :=
  ∃ entries, v.IsMapping entries ∧ (.str name, x) ∈ entries

/-- What stands under a name is of a form, and where nothing does there is a default. -/
def Gives (v : Yaml) (name : String) (default : Option α) (form : Yaml → α → Prop) (a : α) : Prop :=
  (∃ x, v.Given name x ∧ form x a) ∨ (∀ x, ¬ v.Given name x) ∧ default = some a

def IsOption (form : Yaml → α → Prop) (v : Yaml) (a : Option α) : Prop :=
  v = .null ∧ a = none ∨ v ≠ .null ∧ ∃ b, form v b ∧ a = some b

def IsList (form : Yaml → α → Prop) (v : Yaml) (l : List α) : Prop :=
  ∃ items, v.IsSequence items ∧ List.Forall₂ form items l

def IsEntries (key : Yaml → α → Prop) (value : Yaml → β → Prop) (v : Yaml) (l : List (α × β)) :
    Prop :=
  ∃ entries, v.IsMapping entries
    ∧ List.Forall₂ (fun entry pair => key entry.1 pair.1 ∧ value entry.2 pair.2) entries l

structure PlainEntries (entries : List (Yaml × Yaml)) : Prop where
  keys : ∀ entry ∈ entries, entry.1.Plain
  values : ∀ entry ∈ entries, entry.2.Plain
  distinct : entries.Pairwise fun entry other => (entry.1 == other.1) = false

theorem Plain.untag_eq {v : Yaml} (h : v.Plain) : v.untag = v := by
  cases h with
  | _ => rfl

theorem Plain.entries {v : Yaml} (h : v.Plain) {entries : List (Yaml × Yaml)}
    (hentries : v.IsMapping entries)
    : PlainEntries entries := by
  cases hentries with
  | inl hmap =>
    subst hmap
    cases h with
    | map hkeys hvalues hdistinct => exact ⟨hkeys, hvalues, hdistinct⟩
  | inr hnull =>
    rw [hnull.2]
    exact ⟨by simp, by simp, .nil⟩

theorem Plain.items {v : Yaml} (h : v.Plain) {items : List Yaml} (hitems : v.IsSequence items)
    : ∀ item ∈ items, item.Plain := by
  cases hitems with
  | inl hseq =>
    subst hseq
    cases h with
    | seq hitems => exact hitems
  | inr hnull =>
    rw [hnull.2]
    simp

theorem IsMapping.unique {v : Yaml} {entries other : List (Yaml × Yaml)}
    (h : v.IsMapping entries) (hother : v.IsMapping other)
    : entries = other := by
  rcases h with rfl | ⟨rfl, rfl⟩
  . rcases hother with hother | ⟨hother, _⟩
    . cases hother
      rfl
    . contradiction
  . rcases hother with hother | ⟨_, hother⟩
    . contradiction
    . exact hother.symm

theorem given_iff {v : Yaml} {entries : List (Yaml × Yaml)} (h : v.IsMapping entries)
    {name : String} {x : Yaml}
    : v.Given name x ↔ (.str name, x) ∈ entries := by
  constructor
  . intro ⟨other, hother, hmem⟩
    rw [h.unique hother]
    exact hmem
  . intro hmem
    exact ⟨entries, h, hmem⟩

theorem isRecord_iff {v : Yaml} {entries : List (Yaml × Yaml)} (h : v.IsMapping entries)
    {names : List String}
    : v.IsRecord names ↔ ∀ entry ∈ entries, ∃ name ∈ names, entry.1 = .str name := by
  constructor
  . intro ⟨other, hother, hnames⟩
    rw [h.unique hother]
    exact hnames
  . intro hnames
    exact ⟨entries, h, hnames⟩

theorem PlainEntries.tail {entry : Yaml × Yaml} {rest : List (Yaml × Yaml)}
    (h : PlainEntries (entry :: rest))
    : PlainEntries rest := by
  constructor
  . exact fun other hother => h.keys other (List.mem_cons_of_mem _ hother)
  . exact fun other hother => h.values other (List.mem_cons_of_mem _ hother)
  . exact h.distinct.of_cons

@[simp]
theorem beq_str (s t : String) : (Yaml.str s == Yaml.str t) = (s == t) := by
  rfl

theorem value_unique {entries : List (Yaml × Yaml)}
    (h : entries.Pairwise fun entry other => (entry.1 == other.1) = false) {name : String}
    {x y : Yaml} (hx : (.str name, x) ∈ entries) (hy : (.str name, y) ∈ entries)
    : x = y := by
  have hself : ((Yaml.str name == Yaml.str name) = false) → False := by
    simp
  induction h with
  | nil => contradiction
  | cons hhead _ ih =>
    cases hx with
    | head =>
      cases hy with
      | head => rfl
      | tail _ hy => exact (hself (hhead _ hy)).elim
    | tail _ hx =>
      cases hy with
      | head => exact (hself (hhead _ hx)).elim
      | tail _ hy => exact ih hx hy

theorem Given.unique {v : Yaml} (h : v.Plain) {name : String} {x y : Yaml} (hx : v.Given name x)
    (hy : v.Given name y)
    : x = y := by
  obtain ⟨entries, hentries, hx⟩ := hx
  rw [given_iff hentries] at hy
  exact value_unique (h.entries hentries).distinct hx hy

theorem Given.plain {v : Yaml} (h : v.Plain) {name : String} {x : Yaml} (hx : v.Given name x)
    : x.Plain := by
  obtain ⟨entries, hentries, hx⟩ := hx
  exact (h.entries hentries).values _ hx

theorem Gives.of_given {v : Yaml} (hv : v.Plain) {name : String} {default : Option α}
    {form : Yaml → α → Prop} {a : α} (h : v.Gives name default form a) {x : Yaml}
    (hx : v.Given name x)
    : form x a := by
  cases h with
  | inl h =>
    obtain ⟨y, hy, hform⟩ := h
    rw [hx.unique hv hy]
    exact hform
  | inr h => exact (h.1 x hx).elim

theorem Gives.unique {v : Yaml} (hv : v.Plain) {name : String} {default : Option α}
    {form : Yaml → α → Prop} {a b : α} (hform : ∀ x, form x a → form x b → a = b)
    (ha : v.Gives name default form a) (hb : v.Gives name default form b)
    : a = b := by
  rcases ha with ⟨x, hx, ha⟩ | ⟨hnone, hdefault⟩
  . exact hform x ha (hb.of_given hv hx)
  . rcases hb with ⟨x, hx, _⟩ | ⟨_, hdefault'⟩
    . exact (hnone x hx).elim
    . rw [hdefault] at hdefault'
      cases hdefault'
      rfl

theorem exists_gives_and {v : Yaml} {name : String} (default : α) {form : Yaml → α → Prop}
    {p : α → Prop} (hdefault : p default) (h : ∀ x, v.Given name x → ∃ a, form x a ∧ p a)
    : ∃ a, v.Gives name (some default) form a ∧ p a := by
  by_cases hx : ∃ x, v.Given name x
  . obtain ⟨x, hx⟩ := hx
    obtain ⟨a, ha, hp⟩ := h x hx
    exact ⟨a, .inl ⟨x, hx, ha⟩, hp⟩
  . exact ⟨default, .inr ⟨fun x h => hx ⟨x, h⟩, rfl⟩, hdefault⟩

theorem exists_gives {v : Yaml} {name : String} (default : α) {form : Yaml → α → Prop}
    (h : ∀ x, v.Given name x → ∃ a, form x a)
    : ∃ a, v.Gives name (some default) form a := by
  have hsome : ∀ x, v.Given name x → ∃ a, form x a ∧ True := by
    simpa using h
  obtain ⟨a, ha, _⟩ := exists_gives_and default trivial hsome
  exact ⟨a, ha⟩

theorem exists_isOption_iff {form : Yaml → α → Prop} {v : Yaml}
    : (∃ a, v.IsOption form a) ↔ v = .null ∨ ∃ a, form v a := by
  unfold IsOption
  by_cases h : v = .null
  . simp [h]
  . constructor
    . rintro ⟨_, ⟨hnull, _⟩ | ⟨_, a, ha, rfl⟩⟩
      . exact .inl hnull
      . exact .inr ⟨a, ha⟩
    . rintro (hnull | ⟨a, ha⟩)
      . contradiction
      . exact ⟨some a, .inr ⟨h, a, ha, rfl⟩⟩

theorem exists_forall₂_iff {R : α → β → Prop} {l : List α}
    : (∃ bs, List.Forall₂ R l bs) ↔ ∀ a ∈ l, ∃ b, R a b := by
  induction l with
  | nil => simp
  | cons a l ih =>
    simp only [List.forall₂_cons_left_iff, List.forall_mem_cons, ← ih]
    constructor
    . rintro ⟨_, b, bs, hb, hbs, rfl⟩
      exact ⟨⟨b, hb⟩, bs, hbs⟩
    . rintro ⟨⟨b, hb⟩, bs, hbs⟩
      exact ⟨_, b, bs, hb, hbs, rfl⟩

theorem exists_isList_iff {form : Yaml → α → Prop} {v : Yaml}
    : (∃ l, v.IsList form l)
        ↔
      ∃ items, v.IsSequence items ∧ ∀ item ∈ items, ∃ a, form item a := by
  simp only [IsList, ← exists_forall₂_iff]
  constructor
  . rintro ⟨l, items, hitems, h⟩
    exact ⟨items, hitems, l, h⟩
  . rintro ⟨items, hitems, l, h⟩
    exact ⟨l, items, hitems, h⟩

theorem exists_isEntries_iff {key : Yaml → α → Prop} {value : Yaml → β → Prop} {v : Yaml}
    : (∃ l, v.IsEntries key value l)
        ↔
      ∃ entries, v.IsMapping entries
        ∧ ∀ entry ∈ entries, (∃ a, key entry.1 a) ∧ ∃ b, value entry.2 b := by
  have hpair : ∀ entry : Yaml × Yaml, ((∃ a, key entry.1 a) ∧ ∃ b, value entry.2 b)
      ↔ ∃ pair : α × β, key entry.1 pair.1 ∧ value entry.2 pair.2 := by
    intro entry
    simp only [Prod.exists, exists_and_left, exists_and_right]
  simp only [IsEntries, hpair, ← exists_forall₂_iff]
  constructor
  . rintro ⟨l, entries, hentries, h⟩
    exact ⟨entries, hentries, l, h⟩
  . rintro ⟨entries, hentries, l, h⟩
    exact ⟨l, entries, hentries, h⟩

theorem exists_of_mem_right {R : α → β → Prop} {l : List α} {bs : List β}
    (h : List.Forall₂ R l bs) {b : β} (hb : b ∈ bs)
    : ∃ a ∈ l, R a b := by
  induction h with
  | nil => contradiction
  | cons hhead _ ih =>
    cases hb with
    | head => exact ⟨_, List.mem_cons_self, hhead⟩
    | tail _ hb =>
      obtain ⟨a, ha, h⟩ := ih hb
      exact ⟨a, List.mem_cons_of_mem _ ha, h⟩

theorem IsEntries.nodup {key : α → String} {value : Yaml → β → Prop} {v : Yaml} (hv : v.Plain)
    {l : List (α × β)} (h : v.IsEntries (fun x a => x = .str (key a)) value l)
    : (l.map Prod.fst).Nodup := by
  obtain ⟨entries, hentries, h⟩ := h
  have hdistinct := (hv.entries hentries).distinct
  clear hentries
  induction h with
  | nil => simp
  | @cons entry pair entries l hhead hrest ih =>
    rw [List.map_cons, List.nodup_cons]
    refine ⟨?_, ih hdistinct.of_cons⟩
    intro hmem
    obtain ⟨other, hother, hsame⟩ := List.mem_map.1 hmem
    obtain ⟨found, hfound, hkey, _⟩ := exists_of_mem_right hrest hother
    have hne := List.rel_of_pairwise_cons hdistinct hfound
    rw [hhead.1, hkey, hsame] at hne
    simp at hne

namespace Decode

theorem isNamed_iff {key : Yaml} (h : key.Plain) (name : String)
    : isNamed key name = true ↔ key = .str name := by
  unfold isNamed
  rw [h.untag_eq]
  cases h with
  | str s => simp
  | _ => simp

theorem mem_of_go {entries : List (Yaml × Yaml)} (h : ∀ entry ∈ entries, entry.1.Plain)
    {name : String} {place found : Nat} {x : Yaml}
    (hgo : Source.ofMembers.go isNamed name entries place = some (found, x))
    : (.str name, x) ∈ entries := by
  induction entries generalizing place with
  | nil => contradiction
  | cons entry rest ih =>
    obtain ⟨key, value⟩ := entry
    rw [Source.go_cons] at hgo
    split at hgo
    . next hnamed =>
      have hkey : key = .str name := (isNamed_iff (h _ List.mem_cons_self) name).1 hnamed
      cases hgo
      rw [hkey]
      exact List.mem_cons_self
    . have hrest := fun entry hentry => h entry (List.mem_cons_of_mem _ hentry)
      exact List.mem_cons_of_mem _ (ih hrest hgo)

theorem notMem_of_go {entries : List (Yaml × Yaml)} (h : ∀ entry ∈ entries, entry.1.Plain)
    {name : String} {place : Nat}
    (hgo : Source.ofMembers.go isNamed name entries place = none) (x : Yaml)
    : (.str name, x) ∉ entries := by
  induction entries generalizing place with
  | nil => simp
  | cons entry rest ih =>
    obtain ⟨key, value⟩ := entry
    rw [Source.go_cons] at hgo
    split at hgo
    . contradiction
    . next hnamed =>
      have hrest := fun entry hentry => h entry (List.mem_cons_of_mem _ hentry)
      intro hmem
      cases hmem with
      | head =>
        apply hnamed
        exact (isNamed_iff (h _ List.mem_cons_self) name).2 rfl
      | tail _ hmem => exact ih hrest hgo hmem

def Reads (decode : Decoder α) (form : Yaml → α → Prop) : Prop :=
  ∀ v : Yaml, v.Plain → ∀ a, decode v = .ok a ↔ form v a

def Takes (layout : Layout Yaml α) (form : Yaml → α → Prop) : Prop :=
  ∀ v : Yaml, v.Plain → ∀ entries, v.IsMapping entries → ∀ index a,
    layout.read (Source.ofMembers isNamed entries) index = .ok a ↔ form v a

theorem reads_stringFor (expected : String) : Reads (stringFor expected) fun v s => v = .str s := by
  intro v hv s
  unfold stringFor
  rw [hv.untag_eq]
  cases hv with
  | str t => simp
  | _ => simp [mismatch]

theorem reads_string : Reads string fun v s => v = .str s := by
  apply reads_stringFor

theorem reads_boolean : Reads boolean fun v b => v = .bool b := by
  intro v hv b
  unfold boolean
  rw [hv.untag_eq]
  cases hv with
  | bool c => simp
  | _ => simp [mismatch]

theorem reads_natural (limit : Nat) (expected : String)
    : Reads (natural limit expected) fun v n => v = .int n ∧ n < limit := by
  intro v hv n
  unfold natural
  rw [hv.untag_eq]
  cases hv with
  | int m =>
    dsimp only
    split
    . simp
      omega
    . simp
      omega
  | _ => simp [mismatch]

theorem map_eq_ok_iff {ε : Type} {x : Except ε α} {f : α → β} {b : β}
    : x.map f = .ok b ↔ ∃ a, x = .ok a ∧ f a = b := by
  cases x with
  | error e => simp [Except.map]
  | ok a => simp [Except.map]

theorem reads_word {limit : Nat} {ofNat : Nat → α} {toNat : α → Nat}
    (hlimit : ∀ a, toNat a < limit) (hofNat : ∀ a, ofNat (toNat a) = a)
    (htoNat : ∀ n, n < limit → toNat (ofNat n) = n) (expected : String)
    : Reads (fun v => (natural limit expected v).map ofNat) fun v a => v = .int (toNat a) := by
  intro v hv a
  simp only [map_eq_ok_iff, reads_natural limit expected v hv]
  constructor
  . rintro ⟨n, ⟨rfl, hn⟩, rfl⟩
    rw [htoNat n hn]
  . intro h
    exact ⟨toNat a, ⟨h, hlimit a⟩, hofNat a⟩

theorem reads_uint16 : Reads uint16 fun v n => v = .int n.toNat := by
  apply reads_word UInt16.toNat_lt (fun _ => UInt16.ofNat_toNat)
  exact fun _ => UInt16.toNat_ofNat_of_lt'

theorem reads_uint32 : Reads uint32 fun v n => v = .int n.toNat := by
  apply reads_word UInt32.toNat_lt (fun _ => UInt32.ofNat_toNat)
  exact fun _ => UInt32.toNat_ofNat_of_lt'

theorem reads_uint64 : Reads uint64 fun v n => v = .int n.toNat := by
  apply reads_word UInt64.toNat_lt (fun _ => UInt64.ofNat_toNat)
  exact fun _ => UInt64.toNat_ofNat_of_lt'

theorem reads_entityId : Reads entityId fun v id => v = .str id.text := by
  intro v hv id
  cases hv with
  | str s =>
    have hentityId : entityId (.str s) = (EntityId.parse s).mapError .entityId := by
      dsimp only [entityId, string, stringFor, untag, bind, Except.bind]
      cases EntityId.parse s with
      | error e => rfl
      | ok found => rfl
    rw [hentityId, Decoding.mapError_eq_ok_iff]
    dsimp only
    rw [Yaml.str.injEq, ← EntityId.parse_eq_ok_iff]
  | _ => simp [entityId, string, stringFor, mismatch, untag, bind, Except.bind]

variable {decode : Decoder α} {form : Yaml → α → Prop}

theorem reads_option (h : Reads decode form) : Reads (option decode) (IsOption form) := by
  intro v hv a
  have hsome : (decode v).map some = .ok a ↔ ∃ b, form v b ∧ a = some b := by
    rw [map_eq_ok_iff]
    simp only [h v hv, eq_comm]
  unfold option IsOption
  cases hv with
  | null => simp [eq_comm]
  | _ => simpa using hsome

theorem forall₂_congr_of_mem {R S : α → β → Prop} {l : List α} {bs : List β}
    (h : ∀ a ∈ l, ∀ b, R a b ↔ S a b)
    : List.Forall₂ R l bs ↔ List.Forall₂ S l bs := by
  induction l generalizing bs with
  | nil => simp
  | cons a l ih =>
    simp only [List.forall₂_cons_left_iff, h a List.mem_cons_self,
      ih fun b hb => h b (List.mem_cons_of_mem _ hb)]

theorem mapM_eq_ok_iff {ε : Type} {f : α → Except ε β} {l : List α} {bs : List β}
    : l.mapM f = .ok bs ↔ List.Forall₂ (fun a b => f a = .ok b) l bs := by
  induction l generalizing bs with
  | nil => simp [pure, Except.pure, eq_comm]
  | cons a l ih =>
    rw [List.mapM_cons, List.forall₂_cons_left_iff]
    cases hfirst : f a with
    | error e => simp [bind, Except.bind]
    | ok b =>
      cases hrest : l.mapM f with
      | error e => simp [bind, Except.bind, ← ih, hrest]
      | ok rest => simp [bind, Except.bind, pure, Except.pure, ← ih, hrest, eq_comm]

theorem reads_list (h : Reads decode form) : Reads (list decode) (IsList form) := by
  intro v hv l
  have hitems : ∀ items, v.IsSequence items →
      (items.mapM decode = .ok l ↔ List.Forall₂ form items l) := by
    intro items hitems
    rw [mapM_eq_ok_iff]
    exact forall₂_congr_of_mem fun item hitem => h item (hv.items hitems item hitem)
  unfold list IsList IsSequence
  rw [hv.untag_eq]
  cases hv with
  | null => simp [eq_comm]
  | seq => simpa using hitems _ (.inl rfl)
  | _ => simp [mismatch]

theorem reads_entries {key : Decoder α} {value : Decoder β} {keyForm : Yaml → α → Prop}
    {valueForm : Yaml → β → Prop} (hkey : Reads key keyForm) (hvalue : Reads value valueForm)
    : Reads (entries key value) (IsEntries keyForm valueForm) := by
  intro v hv l
  let decode (entry : Yaml × Yaml) : Except Decoding.Error (α × β) := do
    return (← key entry.1, ← value entry.2)
  have hentries : ∀ members, v.IsMapping members →
      (members.mapM decode = .ok l
        ↔ List.Forall₂ (fun entry pair => keyForm entry.1 pair.1 ∧ valueForm entry.2 pair.2)
          members l) := by
    intro members hmembers
    have hplain := hv.entries hmembers
    rw [mapM_eq_ok_iff]
    apply forall₂_congr_of_mem
    intro entry hmem pair
    rw [← hkey entry.1 (hplain.keys _ hmem), ← hvalue entry.2 (hplain.values _ hmem)]
    dsimp only [decode]
    cases key entry.1 with
    | error e => simp [bind, Except.bind]
    | ok found =>
      cases value entry.2 with
      | error e => simp [bind, Except.bind]
      | ok there => simp [bind, Except.bind, pure, Except.pure, Prod.ext_iff]
  have hmap : ∀ members, v = .map members → entries key value v = members.mapM decode := by
    intro members hmap
    rw [hmap]
    rfl
  unfold IsEntries IsMapping
  cases hv with
  | null => simp [entries, untag, eq_comm]
  | @map members =>
    rw [hmap members rfl]
    simpa using hentries members (.inl rfl)
  | _ => simp [entries, untag, mismatch]

theorem takes_field (h : Reads decode form) (name : String) (default : Option α)
    {ifAbsent : Source Yaml → Nat → Except Decoding.Fault α}
    (hdefault : ∀ source index a, ifAbsent source index = .ok a ↔ default = some a)
    : Takes (.field name decode ifAbsent) fun v a => v.Gives name default form a := by
  intro v hv members hmembers index a
  have hkeys := (hv.entries hmembers).keys
  unfold Layout.field Gives
  dsimp only
  rw [Source.field?_ofMembers]
  cases hgo : Source.ofMembers.go isNamed name members 0 with
  | none =>
    have hnone : ∀ x, ¬ v.Given name x := by
      intro x
      rw [given_iff hmembers]
      exact notMem_of_go hkeys hgo x
    simp [hnone, hdefault]
  | some found =>
    obtain ⟨place, x⟩ := found
    have hgiven : v.Given name x := (given_iff hmembers).2 (mem_of_go hkeys hgo)
    dsimp only
    rw [Decoding.mapError_eq_ok_iff, h x (hgiven.plain hv)]
    constructor
    . intro hform
      exact .inl ⟨x, hgiven, hform⟩
    . rintro (⟨y, hy, hform⟩ | ⟨hnone, _⟩)
      . rw [hgiven.unique hv hy]
        exact hform
      . exact (hnone x hgiven).elim

theorem takes_required (h : Reads decode form) (name : String)
    : Takes (.required name decode) fun v a => v.Gives name none form a := by
  apply takes_field h
  simp

theorem takes_withDefault (h : Reads decode form) (name : String) (default : α)
    : Takes (.withDefault name default decode) fun v a => v.Gives name (some default) form a := by
  apply takes_field h
  simp

theorem takes_map {layout : Layout Yaml α} (h : Takes layout form) (f : α → β)
    : Takes (f <$> layout) fun v b => ∃ a, form v a ∧ f a = b := by
  intro v hv members hmembers index b
  rw [Layout.read_map, Layout.both_eq_ok_iff]
  simp [h v hv members hmembers]

theorem takes_seq {layout : Layout Yaml (α → β)} {next : Layout Yaml α}
    {forms : Yaml → (α → β) → Prop} (h : Takes layout forms) (hnext : Takes next form)
    : Takes (layout <*> next) fun v b => ∃ f, forms v f ∧ ∃ a, form v a ∧ f a = b := by
  intro v hv members hmembers index b
  rw [Layout.read_seq, Layout.both_eq_ok_iff]
  simp [h v hv members hmembers, hnext v hv members hmembers]

theorem wrongKey_eq_none_iff {members : List (Yaml × Yaml)} (h : PlainEntries members)
    {known met : List String}
    (hmet : ∀ entry ∈ members, ∀ name ∈ met, entry.1 ≠ .str name) (place : Nat)
    : wrongKey known met members place = none
        ↔
      ∀ entry ∈ members, ∃ name ∈ known, entry.1 = .str name := by
  induction members generalizing met place with
  | nil => simp [wrongKey]
  | cons entry rest ih =>
    obtain ⟨key, value⟩ := entry
    have hkey := reads_stringFor "field identifier" key (h.keys _ List.mem_cons_self)
    unfold wrongKey
    cases hname : stringFor "field identifier" key with
    | error e =>
      have hother : ∀ name, key ≠ .str name := by
        intro name hsame
        have hread := (hkey name).2 hsame
        rw [hname] at hread
        contradiction
      simp [hother]
    | ok name =>
      have hsame : key = .str name := (hkey name).1 hname
      subst hsame
      have hnew : name ∉ met := by
        intro hname
        exact hmet _ List.mem_cons_self name hname rfl
      -- The keys behind are other ones, so none of them has been met with this one either.
      have hrest : ∀ entry ∈ rest, ∀ other ∈ name :: met, entry.1 ≠ .str other := by
        intro entry hentry other hother hsame
        cases hother with
        | head =>
          have hdistinct := List.rel_of_pairwise_cons h.distinct hentry
          rw [hsame] at hdistinct
          simp at hdistinct
        | tail _ hother => exact hmet entry (List.mem_cons_of_mem _ hentry) other hother hsame
      by_cases hknown : name ∈ known
      . simp [hnew, hknown, ih h.tail hrest]
      . simp [hknown]

theorem reads_record {layout : Layout Yaml α} (h : Takes layout form) (name : String)
    : Reads (record name layout) fun v a => v.IsRecord layout.names ∧ form v a := by
  intro v hv a
  have hrun : ∀ members, v.IsMapping members → ∀ fault,
      (layout.run (Source.ofMembers isNamed members) fault = .ok a ↔ fault = none ∧ form v a) := by
    intro members hmembers fault
    rw [Layout.run_eq_ok_iff, h v hv members hmembers]
  unfold record
  rw [hv.untag_eq]
  cases hv with
  | null =>
    have hnull : Yaml.null.IsMapping [] := .inr ⟨rfl, rfl⟩
    simp [hrun [] hnull, isRecord_iff hnull]
  | @map members hkeys hvalues hdistinct =>
    have hmap : (Yaml.map members).IsMapping members := .inl rfl
    have hplain : PlainEntries members := ⟨hkeys, hvalues, hdistinct⟩
    simp [hrun members hmap, isRecord_iff hmap, wrongKey_eq_none_iff hplain]
  | _ => simp [mismatch, IsRecord, IsMapping]

end Decode

end HomeHub.Yaml
