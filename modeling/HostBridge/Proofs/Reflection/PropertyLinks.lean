import HostBridge.Proofs.Memory.Chain
import HostBridge.Reflection.Struct

namespace HostBridge.Struct

open Chain Property

variable {flavour : Flavour} {memory : Memory} {first last property : Address}
  {own : List Address} {links bound bound' : Nat}

theorem linksFrom_null : linksFrom flavour memory 0 bound = [] := by
  cases bound with
  | zero => rfl
  | succ bound => rw [linksFrom, if_pos rfl]

theorem linksFrom_of_ne (hfirst : first ≠ 0) :
    linksFrom flavour memory first (bound + 1) =
      first :: linksFrom flavour memory (linkNext flavour memory first) bound := by
  rw [linksFrom, if_neg hfirst]

/-- The walk yields a property at the place where its chain meets it. -/
theorem getElem?_linksFrom :
    (linksFrom flavour memory first bound)[links]? = some property ↔
      links < bound ∧ property ≠ 0 ∧
        MeetsAfter (linkNext flavour memory) first property links := by
  induction bound generalizing first links with
  | zero => simp [linksFrom]
  | succ bound ih =>
      cases links with
      | zero =>
          rw [meetsAfter_zero]
          by_cases hfirst : first = 0
          · rw [hfirst, linksFrom_null]
            simp [eq_comm]
          · rw [linksFrom_of_ne hfirst, List.getElem?_cons_zero, Option.some.injEq]
            constructor
            · rintro rfl
              exact ⟨Nat.succ_pos bound, hfirst, rfl⟩
            · exact fun h => h.2.2
      | succ links =>
          rw [meetsAfter_succ, Nat.succ_lt_succ_iff]
          by_cases hfirst : first = 0
          · rw [hfirst, linksFrom_null]
            simp
          · rw [linksFrom_of_ne hfirst, List.getElem?_cons_succ, ih]
            simp only [hfirst, ne_eq, not_false_eq_true, true_and]

theorem length_linksFrom (hnull : MeetsAfter (linkNext flavour memory) first 0 links) :
    (linksFrom flavour memory first bound).length = min links bound := by
  induction bound generalizing first links with
  | zero => rw [linksFrom, List.length_nil, Nat.min_zero]
  | succ bound ih =>
      cases links with
      | zero =>
          rw [meetsAfter_zero.mp hnull, linksFrom_null, List.length_nil, Nat.zero_min]
      | succ links =>
          obtain ⟨hfirst, hnull⟩ := meetsAfter_succ.mp hnull
          rw [linksFrom_of_ne hfirst, List.length_cons, ih hnull, Nat.succ_min_succ]

/-- A walk that may go further goes on where a shorter one stops. -/
theorem linksFrom_prefix (hbound : bound ≤ bound') :
    linksFrom flavour memory first bound <+: linksFrom flavour memory first bound' := by
  rw [List.prefix_iff_getElem?]
  intro links hlinks
  obtain ⟨hlt, hmeets⟩ := getElem?_linksFrom.mp (List.getElem?_eq_getElem hlinks)
  exact getElem?_linksFrom.mpr ⟨Nat.lt_of_lt_of_le hlt hbound, hmeets⟩

theorem linksFrom_of_leads (hown : Leads (linkNext flavour memory) first own last) :
    linksFrom flavour memory first bound =
      own.take bound ++ linksFrom flavour memory last (bound - own.length) := by
  induction hown generalizing bound with
  | here address => rw [List.take_nil, List.nil_append, List.length_nil, Nat.sub_zero]
  | link hfirst hrest ih =>
      cases bound with
      | zero => rw [Nat.zero_sub, List.take_zero]; rfl
      | succ bound =>
          rw [linksFrom_of_ne hfirst, ih, List.take_succ_cons, List.cons_append,
            List.length_cons, Nat.succ_sub_succ]

/-- The properties of a struct are its property chain: the bound cuts the walk off, null ends it,
and where the struct's own properties lead to the chain of its parent, the walk goes on as the
parent's. -/
theorem properties_follow_links (flavour : Flavour) (memory : Memory) (struct : Address) :
    let next := linkNext flavour memory
    let head := propertyLink flavour memory struct
    let walk := properties flavour memory struct
    (∀ bound links property, (walk bound)[links]? = some property ↔
      links < bound ∧ property ≠ 0 ∧ MeetsAfter next head property links) ∧
    (∀ links, MeetsAfter next head 0 links →
      (walk links).length = links ∧ ∀ bound ≥ links, walk bound = walk links) ∧
    (∀ bound bound', bound ≤ bound' → walk bound <+: walk bound') ∧
    (∀ parent own, Leads next head own (propertyLink flavour memory parent) → ∀ bound,
      walk bound = own.take bound ++ properties flavour memory parent (bound - own.length)) := by
  intro next head walk
  refine ⟨fun bound links property => getElem?_linksFrom, fun links hnull => ?_,
    fun bound bound' hbound => linksFrom_prefix hbound,
    fun parent own hown bound => linksFrom_of_leads hown⟩
  have hlength : ∀ bound ≥ links, (walk bound).length = links := fun bound hbound =>
    (length_linksFrom hnull).trans (Nat.min_eq_left hbound)
  refine ⟨hlength links (Nat.le_refl links), fun bound hbound => ?_⟩
  have hlonger : walk links <+: walk bound := linksFrom_prefix hbound
  refine (hlonger.eq_of_length ?_).symm
  rw [hlength links (Nat.le_refl links), hlength bound hbound]

/-- A struct with one property of its own, whose parent has another one. -/
def derivedMemory : Memory :=
  let link (entity : Entity) (label : Label) (start target : Address) (memory : Memory) : Memory :=
    memory.write (entity.address .willow label start) target
  Memory.zeroed
    |> link .struct .superField 0x1000 0x2000
    |> link .struct .propertyLink 0x1000 0x3000
    |> link .property .propertyLinkNext 0x3000 0x4000
    |> link .struct .propertyLink 0x2000 0x4000

theorem properties_of_derived_struct :
    let next := linkNext .willow derivedMemory
    let head := propertyLink .willow derivedMemory 0x1000
    let parent := super .willow derivedMemory 0x1000
    MeetsAfter next head 0 2 ∧ Leads next head [0x3000] (propertyLink .willow derivedMemory parent) ∧
      (properties .willow derivedMemory 0x1000 2).length = 2 ∧
      ∀ bound, properties .willow derivedMemory 0x1000 bound
        = [0x3000].take bound ++ properties .willow derivedMemory parent (bound - 1) := by
  intro next head parent
  have hhead : head = 0x3000 := by decide +kernel
  have hsecond : next 0x3000 = 0x4000 := by decide +kernel
  have hparent : propertyLink .willow derivedMemory parent = 0x4000 := by decide +kernel
  have hnull : MeetsAfter next head 0 2 := by
    rw [hhead, meetsAfter_succ, hsecond, meetsAfter_succ, meetsAfter_zero]
    exact ⟨by decide, by decide, by decide +kernel⟩
  have hown : Leads next head [0x3000] (propertyLink .willow derivedMemory parent) := by
    rw [hhead, hparent, ← hsecond]
    exact .link (by decide) (.here _)
  obtain ⟨-, hends, -, hinherits⟩ := properties_follow_links .willow derivedMemory 0x1000
  exact ⟨hnull, hown, (hends 2 hnull).1, hinherits parent _ hown⟩

end HostBridge.Struct
