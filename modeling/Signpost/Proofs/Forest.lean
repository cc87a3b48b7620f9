import Mathlib.Data.List.Nodup
import Signpost.Forest

/-!
# Forests as lists of their nodes

A path is tried on the nodes of a forest in preorder, so what matches is the first node of the list that
does (`Forest.match?_eq_findSome?`).  Looking up a qualified name goes through the forest in another order,
and finds a node of that name if there is one (`Forest.find?_eq_some_iff`).  The order does not matter
where no name comes twice.

*Names.*  A forest is well named under a route if every route joins the qualified name of the one above it
and a name of its own, which is not empty and holds no colon, and if siblings have different names
(`Forest.WellNamed`).  Then no qualified name comes twice (`Forest.WellNamed.nodup`): the names of two
subtrees part at the names of the siblings they lie under.  A route more at the end of the row keeps a forest
well named (`Forest.WellNamed.append`).
-/

namespace Signpost

namespace Forest

/-! ## Matching -/

/-- A path matches the first node in preorder whose template it matches. -/
theorem match?_eq_findSome? (path : Text) (f : Forest) :
    f.match? path = f.nodes.findSome? fun n => (n.route.captures? path).map (n, ·) := by
  induction f with
  | nil => rfl
  | cons r cs rest ihcs ihrest =>
      rw [match?, nodes, List.findSome?_cons, List.findSome?_append, ← ihcs, ← ihrest]
      dsimp only
      cases r.captures? path with
      | some vars => rfl
      | none => cases match? path cs <;> rfl

/-- A match is a node that matches, with none before it in preorder that does. -/
theorem match?_eq_some_iff {path : Text} {f : Forest} {n : Node} {vars : Vars} :
    f.match? path = some (n, vars) ↔ ∃ before after, f.nodes = before ++ n :: after ∧
      n.route.captures? path = some vars ∧ ∀ m ∈ before, m.route.captures? path = none := by
  rw [match?_eq_findSome?, List.findSome?_eq_some_iff]
  constructor
  · rintro ⟨before, m, after, hnodes, hm, hbefore⟩
    obtain ⟨vars, hvars, heq⟩ := Option.map_eq_some_iff.1 hm
    cases heq
    exact ⟨before, after, hnodes, hvars, by simpa using hbefore⟩
  · rintro ⟨before, after, hnodes, hvars, hbefore⟩
    exact ⟨before, n, after, hnodes, by rw [hvars]; rfl, by simpa using hbefore⟩

/-! ## Looking up names -/

theorem here?_eq_find? (name : Text) (f : Forest) :
    f.here? name = f.tops.find? (·.route.qualifiedName = name) := by
  induction f with
  | nil => rfl
  | cons r cs rest _ ih =>
      rw [here?, tops, List.find?_cons, ih]
      by_cases h : r.qualifiedName = name <;> simp [h]

theorem tops_subset_nodes : ∀ f : Forest, f.tops ⊆ f.nodes
  | nil => List.nil_subset _
  | cons r cs rest => by
      rw [tops, nodes]
      exact List.cons_subset_cons _ (List.Subset.trans (tops_subset_nodes rest) (List.subset_append_right _ _))

theorem here?_eq_some {name : Text} {f : Forest} {n : Node} (h : f.here? name = some n) :
    n ∈ f.nodes ∧ n.route.qualifiedName = name := by
  rw [here?_eq_find?] at h
  exact ⟨tops_subset_nodes f (List.mem_of_find?_eq_some h), by simpa using List.find?_some h⟩

theorem below?_eq_some {name : Text} {f : Forest} {n : Node} (h : f.below? name = some n) :
    n ∈ f.nodes ∧ n.route.qualifiedName = name := by
  induction f with
  | nil => cases h
  | cons r cs rest ihcs ihrest =>
      rw [nodes, List.mem_cons, List.mem_append]
      simp only [below?] at h
      split at h
      · next m hm =>
          cases h
          exact ⟨.inr (.inl (here?_eq_some hm).1), (here?_eq_some hm).2⟩
      · split at h
        · next m hm =>
            cases h
            exact ⟨.inr (.inl (ihcs hm).1), (ihcs hm).2⟩
        · exact ⟨.inr (.inr (ihrest h).1), (ihrest h).2⟩

/-- A lookup that fails in the row fails below it only if no node has the name. -/
theorem ne_of_find?_eq_none {name : Text} {f : Forest} (hhere : f.here? name = none)
    (hbelow : f.below? name = none) : ∀ n ∈ f.nodes, n.route.qualifiedName ≠ name := by
  induction f with
  | nil => simp [nodes]
  | cons r cs rest ihcs ihrest =>
      simp only [here?] at hhere
      split at hhere
      · cases hhere
      · next hr =>
          simp only [below?] at hbelow
          split at hbelow
          · cases hbelow
          · next hcs =>
              split at hbelow
              · cases hbelow
              · next hcs' =>
                  rw [nodes, List.forall_mem_cons, List.forall_mem_append]
                  exact ⟨hr, ihcs hcs hcs', ihrest hhere hbelow⟩

theorem find?_mem {name : Text} {f : Forest} {n : Node} (h : f.find? name = some n) :
    n ∈ f.nodes ∧ n.route.qualifiedName = name := by
  rw [find?, Option.or_eq_some_iff] at h
  rcases h with h | ⟨-, h⟩
  · exact here?_eq_some h
  · exact below?_eq_some h

/-- If no name comes twice, looking up the name of a node finds the node. -/
theorem find?_qualifiedName {f : Forest}
    (hnodup : (f.nodes.map (·.route.qualifiedName)).Nodup) {n : Node} (hn : n ∈ f.nodes) :
    f.find? n.route.qualifiedName = some n := by
  cases h : f.find? n.route.qualifiedName with
  | none =>
      rw [find?, Option.or_eq_none_iff] at h
      exact absurd rfl (ne_of_find?_eq_none h.1 h.2 n hn)
  | some m =>
      obtain ⟨hm, hname⟩ := find?_mem h
      rw [List.inj_on_of_nodup_map hnodup hm hn hname]

/-- If no name comes twice, a lookup finds the node of the name, in whatever order it goes. -/
theorem find?_eq_some_iff {f : Forest} (hnodup : (f.nodes.map (·.route.qualifiedName)).Nodup)
    {name : Text} {n : Node} : f.find? name = some n ↔ n ∈ f.nodes ∧ n.route.qualifiedName = name := by
  refine ⟨find?_mem, ?_⟩
  rintro ⟨hn, rfl⟩
  exact find?_qualifiedName hnodup hn

/-! ## Names -/

/-- The qualified name of a route of a given name, under the route above. -/
def qualify : Option Text → Text → Text
  | none, name => name
  | some above, name => above ++ ':' :: name

/-- Every route has a name of its own and the qualified name that this gives under the one above, and no
other of its siblings has it. -/
def WellNamed (above : Option Text) : Forest → Prop
  | nil => True
  | cons r cs rest =>
    Route.checkName r.name = .ok () ∧ r.qualifiedName = qualify above r.name ∧
      (∀ n ∈ rest.tops, n.route.qualifiedName ≠ r.qualifiedName) ∧
      cs.WellNamed (some r.qualifiedName) ∧ rest.WellNamed above

end Forest

/-- A name can be used if it is not empty and holds no colon. -/
theorem Route.checkName_eq_ok {name : Text} : checkName name = .ok () ↔ name ≠ [] ∧ ':' ∉ name := by
  unfold checkName
  split
  · next hempty => exact iff_of_false nofun fun h => h.1 (List.isEmpty_iff.1 hempty)
  · next hempty =>
      split
      · next hcolon => exact iff_of_false nofun fun h => h.2 (List.contains_iff_mem.1 hcolon)
      · next hcolon =>
          exact iff_of_true rfl ⟨by simpa using hempty, by simpa using hcolon⟩

namespace Forest

variable {above : Option Text} {f : Forest}

theorem WellNamed.tops (hf : f.WellNamed above) : ∀ n ∈ f.tops,
    ':' ∉ n.route.name ∧ n.route.qualifiedName = qualify above n.route.name := by
  induction f with
  | nil => simp [Forest.tops]
  | cons r cs rest _ ih =>
      obtain ⟨hname, hqualified, -, -, hrest⟩ := hf
      rw [Forest.tops, List.forall_mem_cons]
      exact ⟨⟨(Route.checkName_eq_ok.1 hname).2, hqualified⟩, ih hrest⟩

/-- What goes on after a name: nothing, or a colon and more. -/
def GoesOn (s : Text) : Prop := s = [] ∨ ∃ more, s = ':' :: more

/-- A name without colons is told by what it starts. -/
theorem eq_of_append_eq {s t : Text} (hs : GoesOn s) (ht : GoesOn t) : ∀ {a b : Text},
    ':' ∉ a → ':' ∉ b → a ++ s = b ++ t → a = b
  | [], [], _, _, _ => rfl
  | [], c :: b, _, hb, h => by
      rcases hs with rfl | ⟨more, rfl⟩
      · cases h
      · cases h
        exact absurd List.mem_cons_self hb
  | c :: a, [], ha, _, h => by
      rcases ht with rfl | ⟨more, rfl⟩
      · cases h
      · cases h
        exact absurd List.mem_cons_self ha
  | c :: a, d :: b, ha, hb, h => by
      obtain ⟨hcd, htail⟩ := List.cons.inj h
      rw [hcd, eq_of_append_eq hs ht (fun hm => ha (List.mem_cons_of_mem _ hm))
        (fun hm => hb (List.mem_cons_of_mem _ hm)) htail]

/-- Siblings of different names have nothing under them with a common name. -/
theorem qualify_append_inj {a b s t : Text} (ha : ':' ∉ a) (hb : ':' ∉ b) (hs : GoesOn s)
    (ht : GoesOn t) (h : qualify above a ++ s = qualify above b ++ t) :
    qualify above a = qualify above b := by
  have hab : a = b := by
    cases above with
    | none => exact eq_of_append_eq hs ht ha hb h
    | some above =>
        simp only [qualify, List.append_assoc, List.cons_append] at h
        exact eq_of_append_eq hs ht ha hb (List.cons.inj (List.append_cancel_left h)).2
  rw [hab]

/-- The name of every node goes on from the name of the one in the row that it lies under. -/
theorem WellNamed.exists_top (hf : f.WellNamed above) : ∀ n ∈ f.nodes, ∃ m ∈ f.tops, ∃ s, GoesOn s ∧
    n.route.qualifiedName = m.route.qualifiedName ++ s := by
  induction f generalizing above with
  | nil => simp [nodes]
  | cons r cs rest ihcs ihrest =>
      obtain ⟨-, -, -, hcs, hrest⟩ := hf
      rw [nodes, List.forall_mem_cons, List.forall_mem_append, Forest.tops]
      refine ⟨⟨_, List.mem_cons_self, [], .inl rfl, by simp⟩, fun n hn => ?_, fun n hn => ?_⟩
      · obtain ⟨m, hm, s, -, hname⟩ := ihcs hcs n hn
        refine ⟨_, List.mem_cons_self, ':' :: (m.route.name ++ s), .inr ⟨_, rfl⟩, ?_⟩
        rw [hname, (hcs.tops m hm).2, qualify, List.append_assoc, List.cons_append]
      · obtain ⟨m, hm, s, hs, hname⟩ := ihrest hrest n hn
        exact ⟨m, List.mem_cons_of_mem _ hm, s, hs, hname⟩

/-- No qualified name comes twice. -/
theorem WellNamed.nodup (hf : f.WellNamed above) :
    (f.nodes.map (·.route.qualifiedName)).Nodup := by
  induction f generalizing above with
  | nil => exact List.nodup_nil
  | cons r cs rest ihcs ihrest =>
      have hall := hf
      obtain ⟨hname, hqualified, hsiblings, hcs, hrest⟩ := hf
      have hbelow : ∀ n ∈ cs.nodes, ∃ more, n.route.qualifiedName = r.qualifiedName ++ ':' :: more := by
        intro n hn
        obtain ⟨m, hm, s, -, hname⟩ := hcs.exists_top n hn
        exact ⟨m.route.name ++ s, by simp [hname, (hcs.tops m hm).2, qualify]⟩
      -- The name of a node further on in the row is not one that goes on from the name of `r`.
      have hapart : ∀ n ∈ rest.nodes, ∀ s, GoesOn s →
          n.route.qualifiedName ≠ r.qualifiedName ++ s := by
        intro n hn s hs heq
        obtain ⟨m, hm, t, ht, hn⟩ := hrest.exists_top n hn
        obtain ⟨hcolon, hm'⟩ := hrest.tops m hm
        rw [hn, hm', hqualified] at heq
        have h := qualify_append_inj hcolon ((Route.checkName_eq_ok.1 hname).2) ht hs heq
        exact hsiblings m hm (by rw [hm', hqualified, h])
      rw [nodes, List.map_cons, List.map_append, List.nodup_cons, List.nodup_append, List.mem_append,
        not_or]
      refine ⟨⟨?_, ?_⟩, ihcs hcs, ihrest hrest, ?_⟩
      · rintro hmem
        obtain ⟨n, hn, heq⟩ := List.mem_map.1 hmem
        obtain ⟨more, hmore⟩ := hbelow n hn
        rw [heq] at hmore
        simpa using congrArg List.length hmore
      · rintro hmem
        obtain ⟨n, hn, heq⟩ := List.mem_map.1 hmem
        exact hapart n hn [] (.inl rfl) (by rw [List.append_nil, heq])
      · intro a ha b hb heq
        obtain ⟨n, hn, rfl⟩ := List.mem_map.1 ha
        obtain ⟨m, hm, rfl⟩ := List.mem_map.1 hb
        obtain ⟨more, hmore⟩ := hbelow n hn
        exact hapart m hm (':' :: more) (.inr ⟨more, rfl⟩) (heq ▸ hmore)

/-! ## Adding routes -/

theorem tops_append (f : Forest) (new : Route) : (f.append new).tops = f.tops ++ [⟨new, nil⟩] := by
  induction f with
  | nil => rfl
  | cons r cs rest _ ih => rw [append, Forest.tops, ih, Forest.tops, List.cons_append]

theorem WellNamed.append (hf : f.WellNamed above) {new : Route}
    (hname : Route.checkName new.name = .ok ())
    (hqualified : new.qualifiedName = qualify above new.name)
    (hnew : ∀ n ∈ f.tops, n.route.qualifiedName ≠ new.qualifiedName) :
    (f.append new).WellNamed above := by
  induction f with
  | nil => exact ⟨hname, hqualified, by simp [Forest.tops], trivial, trivial⟩
  | cons r cs rest _ ih =>
      obtain ⟨hr, hr', hsiblings, hcs, hrest⟩ := hf
      rw [Forest.tops, List.forall_mem_cons] at hnew
      refine ⟨hr, hr', ?_, hcs, ih hrest hnew.2⟩
      rw [tops_append, List.forall_mem_append]
      exact ⟨hsiblings, by simpa using hnew.1.symm⟩

end Forest

end Signpost
