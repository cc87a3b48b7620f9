import Signpost.Proofs.Router.Reached
import Signpost.Proofs.Template.Segments

/-!
# Names identify routes

*Lineages.*  The names from the top level down to a node are its lineage (`Forest.lineages`).  In a well named
forest the qualified name of a node is its lineage joined with colons (`Forest.WellNamed.qualifiedName_eq_join`).

*Attempts.*  A registration that is refused, or that names no place, leaves a router as it was
(`Router.attempt_eq`).  So after any attempts the router is one that can be reached, and its names identify its
nodes (`Router.Reached.namesIdentify`): looking up a qualified name finds the one node of that name, from the
top level as from any node above it, and no other text finds anything.
-/

namespace Signpost

namespace Forest

/-! ## Lineages -/

/-- All nodes in preorder, each with the names from the top level down to it; the first argument holds the
names down to the forest. -/
def lineages (above : List Text) : Forest → List (List Text × Node)
  | nil => []
  | cons r cs rest =>
    (above ++ [r.name], ⟨r, cs⟩) :: (lineages (above ++ [r.name]) cs ++ lineages above rest)

theorem map_snd_lineages (above : List Text) (f : Forest) :
    (f.lineages above).map Prod.snd = f.nodes := by
  induction f generalizing above with
  | nil => rfl
  | cons r cs rest ihcs ihrest => rw [lineages, List.map_cons, List.map_append, ihcs, ihrest, nodes]

/-- Every node has a lineage. -/
theorem exists_lineage {f : Forest} {n : Node} (hn : n ∈ f.nodes) (above : List Text) :
    ∃ names, (names, n) ∈ f.lineages above := by
  rw [← map_snd_lineages above] at hn
  obtain ⟨⟨names, _⟩, hmem, rfl⟩ := List.mem_map.1 hn
  exact ⟨names, hmem⟩

/-- The qualified name of the node that some names lead to. -/
def joined : List Text → Option Text
  | [] => none
  | name :: names => some (Text.join ':' (name :: names))

theorem joined_append (names : List Text) (name : Text) :
    joined (names ++ [name]) = some (Text.join ':' (names ++ [name])) := by
  cases names <;> rfl

theorem qualify_joined (names : List Text) (name : Text) :
    qualify (joined names) name = Text.join ':' (names ++ [name]) := by
  cases names with
  | nil => rw [List.nil_append, Text.join_singleton]; rfl
  | cons first names =>
      rw [Text.join_append ':' (List.cons_ne_nil first names) (by simp), Text.join_singleton]
      rfl

/-- Qualified names are lineages joined. -/
theorem WellNamed.qualifiedName_eq_join {f : Forest} {above : List Text} (hf : f.WellNamed (joined above)) :
    ∀ b ∈ f.lineages above, b.2.route.qualifiedName = Text.join ':' b.1 := by
  induction f generalizing above with
  | nil => exact fun b hb => by cases hb
  | cons r cs rest ihcs ihrest =>
      obtain ⟨-, hqualified, -, hcs, hrest⟩ := hf
      rw [qualify_joined] at hqualified
      rw [hqualified, ← joined_append] at hcs
      rw [lineages, List.forall_mem_cons, List.forall_mem_append]
      exact ⟨hqualified, ihcs hcs, ihrest hrest⟩

theorem WellNamed.names {f : Forest} {above : Option Text} (hf : f.WellNamed above) :
    ∀ n ∈ f.nodes, n.route.name ≠ [] ∧ ':' ∉ n.route.name := by
  induction f generalizing above with
  | nil => exact fun n hn => by cases hn
  | cons r cs rest ihcs ihrest =>
      obtain ⟨hname, -, -, hcs, hrest⟩ := hf
      rw [nodes, List.forall_mem_cons, List.forall_mem_append]
      exact ⟨Route.checkName_eq_ok.1 hname, ihcs hcs, ihrest hrest⟩

/-- What lies under a node of a forest is in the forest. -/
theorem children_nodes_sublist {f : Forest} : ∀ n ∈ f.nodes, n.children.nodes.Sublist f.nodes := by
  induction f with
  | nil => exact fun n hn => by cases hn
  | cons r cs rest ihcs ihrest =>
      have hunder : cs.nodes.Sublist (cs.nodes ++ rest.nodes) := List.sublist_append_left _ _
      have hbeside : rest.nodes.Sublist (cs.nodes ++ rest.nodes) := List.sublist_append_right _ _
      rw [nodes, List.forall_mem_cons, List.forall_mem_append]
      exact ⟨hunder.cons _, fun n hn => ((ihcs n hn).trans hunder).cons _,
        fun n hn => ((ihrest n hn).trans hbeside).cons _⟩

end Forest

namespace Router

variable {ι : Type}

/-! ## Attempts -/

/-- The router after some attempts, one after another. -/
def attempts (r : Router ι) (specs : List (Place × Route.Spec)) : Router ι :=
  specs.foldl (fun r spec => r.attempt spec.1 spec.2) r

theorem Reached.attempt {r : Router ι} (hr : r.Reached) (place : Place) (spec : Route.Spec) :
    (r.attempt place spec).Reached := by
  rw [attempt_eq]
  split
  · next hregister => exact hr.register hregister
  · exact hr

theorem Reached.attempts {r : Router ι} (hr : r.Reached) (specs : List (Place × Route.Spec)) :
    (r.attempts specs).Reached := by
  induction specs generalizing r with
  | nil => exact hr
  | cons spec specs ih => exact ih (hr.attempt spec.1 spec.2)

/-! ## Names of nodes -/

/-- The names of a router identify its nodes. -/
structure NamesIdentify (r : Router ι) : Prop where
  /-- No name is empty or holds a colon. -/
  names : ∀ n ∈ r.routes.nodes, n.route.name ≠ [] ∧ ':' ∉ n.route.name
  /-- Every node has a lineage. -/
  lineage : ∀ n ∈ r.routes.nodes, ∃ names, (names, n) ∈ r.routes.lineages []
  /-- The qualified name of a node is its lineage joined. -/
  qualified : ∀ b ∈ r.routes.lineages [], b.2.route.qualifiedName = Text.join ':' b.1
  /-- No qualified name comes twice. -/
  distinct : (r.routes.nodes.map (·.route.qualifiedName)).Nodup
  /-- A lookup finds the node of the name. -/
  found : ∀ name n, r.find? name = some n ↔ n ∈ r.routes.nodes ∧ n.route.qualifiedName = name
  /-- A lookup of any other text fails. -/
  missed : ∀ name, r.find? name = none ↔ ∀ n ∈ r.routes.nodes, n.route.qualifiedName ≠ name
  /-- A lookup under a node finds what the same lookup from the top finds, if that lies under the node. -/
  foundUnder : ∀ n ∈ r.routes.nodes, ∀ name m,
    n.find? name = some m ↔ r.find? name = some m ∧ m ∈ n.children.nodes

theorem namesIdentify_of_wellNamed {r : Router ι} (h : r.routes.WellNamed none) : r.NamesIdentify := by
  have hfound : ∀ name n, r.find? name = some n ↔ n ∈ r.routes.nodes ∧ n.route.qualifiedName = name :=
    fun name n => Forest.find?_eq_some_iff h.nodup
  have hjoined : r.routes.WellNamed (Forest.joined []) := h
  refine ⟨h.names, fun n hn => Forest.exists_lineage hn [], hjoined.qualifiedName_eq_join, h.nodup, hfound,
    fun name => ?_, fun n hn name m => ?_⟩
  · simp only [Option.eq_none_iff_forall_ne_some, ne_eq, hfound, not_and]
  · have hsub := Forest.children_nodes_sublist n hn
    have hnodup := h.nodup.sublist (hsub.map (·.route.qualifiedName))
    rw [hfound, Node.find?, Forest.find?_eq_some_iff hnodup]
    exact ⟨fun hm => ⟨⟨hsub.subset hm.1, hm.2⟩, hm.1⟩, fun hm => ⟨hm.2, hm.1.2⟩⟩

/-- After any attempts to register routes, the names of a router that can be reached identify its nodes. -/
theorem Reached.namesIdentify {r : Router ι} (hr : r.Reached) (specs : List (Place × Route.Spec)) :
    (r.attempts specs).NamesIdentify :=
  namesIdentify_of_wellNamed (hr.attempts specs).wellNamed

/-- A route under another, and attempts at a name that is taken, at one with a colon and at a place that is
not there. -/
theorem namesIdentify_of_nested :
    let specs : List (Place × Route.Spec) :=
      [([], ⟨"a".toList, "/a".toList, true⟩), ([0], ⟨"b".toList, "b".toList, true⟩),
        ([0], ⟨"b".toList, "again".toList, true⟩), ([], ⟨"a:b".toList, "/x".toList, true⟩),
        ([7], ⟨"c".toList, "c".toList, true⟩), ([], ⟨"b".toList, "/b".toList, true⟩)]
    (attempts ({} : Router Unit) specs).NamesIdentify ∧
      (attempts ({} : Router Unit) specs).routes.nodes.map (·.route.qualifiedName) =
        ["a".toList, "a:b".toList, "b".toList] ∧
      ((attempts ({} : Router Unit) specs).find? "a:b".toList).map (·.route.path) =
        some "/a/b".toList := by
  have hstart : (ofSettings {} : Except SettingsError (Router Unit)) = .ok {} := rfl
  exact ⟨(Reached.ofSettings hstart).namesIdentify _, by decide +kernel, by decide +kernel⟩

end Router

end Signpost
