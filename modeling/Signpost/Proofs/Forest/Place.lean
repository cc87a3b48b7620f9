import Mathlib.Data.List.Forall2
import Signpost.Proofs.Forest

/-!
# Places in a forest

*Rows.*  What is done at a place is done to the row there, from the route above (`Forest.spot?`), and another row
comes back in its stead (`Forest.within?_eq`).  If it is the same row, the forest is the same
(`Forest.setRow_of_spot?`), and if it is the row with a route more at its end, this route was put into the forest
(`Forest.setRow_append`).

*Adding.*  The new route has the next position of the row, which was free, and nothing under it
(`Forest.at?_next`, `Forest.at?_put_new`).  Every other place holds the route it held (`Forest.routeAt?_put`).  The
forest stays well named if the route is named after the one above it and unlike its siblings
(`Forest.WellNamed.put`).

*The open end.*  A forest is open at the top level and on the way down to its last route in preorder
(`Forest.OpenAt`).  What is put there comes last in preorder.  All other nodes stay in order, and under some of
them lies more than before (`Forest.exists_nodes_put`).  After that the forest is open at the new place
(`Forest.openAt_put`), so adding at the last place or above it keeps preorder the order of arrival.
-/

namespace Signpost

namespace Forest

variable {f row : Forest} {above parent : Option Route} {place : Place}

/-- The routes in preorder. -/
def routes (f : Forest) : List Route := f.nodes.map Node.route

theorem routes_cons (r : Route) (cs rest : Forest) :
    routes (cons r cs rest) = r :: (cs.routes ++ rest.routes) := by
  rw [routes, nodes, List.map_cons, List.map_append]
  rfl

/-- The route at a place. -/
def routeAt? (place : Place) (f : Forest) : Option Route := (f.at? place).map Node.route

/-- The route above a place and the row there; the first argument is the route above the forest. -/
def spot? (above : Option Route) (place : Place) (f : Forest) : Option (Option Route × Forest) :=
  match place with
  | [] => some (above, f)
  | _ :: _ => (f.at? place).map fun n => (some n.route, n.children)

/-- The forest with another row at a place. -/
def setRow (row : Forest) : Place → Forest → Forest
  | [], _ => row
  | _ :: _, nil => nil
  | 0 :: place, cons r cs rest => cons r (setRow row place cs) rest
  | (i + 1) :: place, cons r cs rest => cons r cs (setRow row (i :: place) rest)

/-- The forest with a route at the end of the row at a place. -/
def put (new : Route) : Place → Forest → Forest
  | [], f => f.append new
  | _ :: _, nil => nil
  | 0 :: place, cons r cs rest => cons r (put new place cs) rest
  | (i + 1) :: place, cons r cs rest => cons r cs (put new (i :: place) rest)

/-! ## Steps of a place -/

@[simp] theorem at?_nil (place : Place) : at? place nil = none := by
  unfold at?
  rfl

@[simp] theorem at?_root (f : Forest) : at? [] f = none := by
  cases f <;> rfl

@[simp] theorem at?_here (r : Route) (cs rest : Forest) : at? [0] (cons r cs rest) = some ⟨r, cs⟩ := rfl

@[simp] theorem at?_under (i : Nat) (place : Place) (r : Route) (cs rest : Forest) :
    at? (0 :: i :: place) (cons r cs rest) = at? (i :: place) cs := rfl

@[simp] theorem at?_beside (i : Nat) (place : Place) (r : Route) (cs rest : Forest) :
    at? ((i + 1) :: place) (cons r cs rest) = at? (i :: place) rest := rfl

@[simp] theorem spot?_under (r : Route) (cs rest : Forest) :
    spot? above (0 :: place) (cons r cs rest) = spot? (some r) place cs := by
  cases place <;> rfl

@[simp] theorem spot?_beside (i : Nat) (r : Route) (cs rest : Forest) :
    spot? above ((i + 1) :: place) (cons r cs rest) = spot? above (i :: place) rest := rfl

theorem mem_nodes_of_at? {n : Node} : ∀ {place : Place} {f : Forest}, at? place f = some n → n ∈ f.nodes
  | _, nil, h => by simp at h
  | [], cons r cs rest, h => by simp at h
  | [0], cons r cs rest, h => by
      cases h
      exact List.mem_cons_self
  | 0 :: i :: place, cons r cs rest, h => by
      rw [at?_under] at h
      exact List.mem_cons_of_mem _ (List.mem_append_left _ (mem_nodes_of_at? h))
  | (i + 1) :: place, cons r cs rest, h => by
      rw [at?_beside] at h
      exact List.mem_cons_of_mem _ (List.mem_append_right _ (mem_nodes_of_at? h))

/-- The route above a place is one of the forest, or the one above the forest. -/
theorem mem_routes_of_spot? (h : spot? none place f = some (parent, row)) : ∀ p ∈ parent, p ∈ f.routes := by
  cases place with
  | nil =>
      cases h
      simp
  | cons i place =>
      obtain ⟨n, hn, heq⟩ := Option.map_eq_some_iff.1 h
      cases heq
      rintro p ⟨⟩
      exact List.mem_map_of_mem (mem_nodes_of_at? hn)

/-! ## Rows at a place -/

/-- What is done at a place is done to the row there, and the row that this leaves is put in its stead. -/
theorem within?_eq {α : Type} (act : Option Route → StateM Forest α) :
    ∀ (above : Option Route) (place : Place) (f : Forest), within? act above place f =
      (spot? above place f).map fun spot =>
        (((act spot.1).run spot.2).1, setRow ((act spot.1).run spot.2).2 place f)
  | above, [], f => by
      rw [within?, spot?, Option.map_some, setRow]
      rfl
  | above, _ :: _, nil => by simp [within?, spot?]
  | above, 0 :: place, cons r cs rest => by
      rw [within?, within?_eq act (some r) place cs, spot?_under, Option.map_map]
      rfl
  | above, (i + 1) :: place, cons r cs rest => by
      rw [within?, within?_eq act above (i :: place) rest, spot?_beside, Option.map_map]
      rfl

/-- The row that is at a place, put there, leaves the forest as it is. -/
theorem setRow_of_spot? : ∀ {place : Place} {f : Forest} {above : Option Route},
    spot? above place f = some (parent, row) → setRow row place f = f
  | [], f, _, h => by
      cases h
      rw [setRow]
  | _ :: _, nil, _, h => by simp [spot?] at h
  | 0 :: place, cons r cs rest, _, h => by
      rw [spot?_under] at h
      rw [setRow, setRow_of_spot? h]
  | (i + 1) :: place, cons r cs rest, _, h => by
      rw [spot?_beside] at h
      rw [setRow, setRow_of_spot? h]

/-! ## Adding at a place -/

@[simp] theorem put_root (new : Route) (f : Forest) : f.put new [] = f.append new := by
  rw [put]

@[simp] theorem put_under (new r : Route) (cs rest : Forest) :
    (cons r cs rest).put new (0 :: place) = cons r (cs.put new place) rest := by
  rw [put]

@[simp] theorem put_beside (new : Route) (i : Nat) (r : Route) (cs rest : Forest) :
    (cons r cs rest).put new ((i + 1) :: place) = cons r cs (rest.put new (i :: place)) := by
  rw [put]

/-- The row that is at a place, put there with a route more at its end. -/
theorem setRow_append (new : Route) : ∀ {place : Place} {f : Forest} {above : Option Route},
    spot? above place f = some (parent, row) → setRow (row.append new) place f = f.put new place
  | [], f, _, h => by
      cases h
      rw [put_root, setRow]
  | _ :: _, nil, _, h => by simp [spot?] at h
  | 0 :: place, cons r cs rest, _, h => by
      rw [spot?_under] at h
      rw [setRow, setRow_append new h, put_under]
  | (i + 1) :: place, cons r cs rest, _, h => by
      rw [spot?_beside] at h
      rw [setRow, setRow_append new h, put_beside]

theorem at?_length_tops (f : Forest) : f.at? [f.tops.length] = none := by
  induction f with
  | nil => rfl
  | cons r cs rest _ ih => exact ih

/-- The position that comes next in a row is free. -/
theorem at?_next : ∀ {place : Place} {f : Forest} {above : Option Route},
    spot? above place f = some (parent, row) → f.at? (place ++ [row.tops.length]) = none
  | [], f, _, h => by
      cases h
      exact at?_length_tops _
  | _ :: _, nil, _, h => by simp [spot?] at h
  | 0 :: place, cons r cs rest, _, h => by
      rw [spot?_under] at h
      have ih := at?_next h
      cases place with
      | nil => exact ih
      | cons i place => exact ih
  | (i + 1) :: place, cons r cs rest, _, h => by
      rw [spot?_beside] at h
      have ih := at?_next h
      exact ih

/-- A row ends in what was added to it, with nothing under that. -/
theorem at?_append_new (f : Forest) (new : Route) : (f.append new).at? [f.tops.length] = some ⟨new, nil⟩ := by
  induction f with
  | nil => rfl
  | cons r cs rest _ ih => exact ih

theorem routeAt?_append (new : Route) : ∀ (f : Forest) (q : Place),
    (f.append new).routeAt? q = if q = [f.tops.length] then some new else f.routeAt? q
  | nil, [] => rfl
  | nil, [0] => rfl
  | nil, 0 :: i :: q => by simp [routeAt?, append, tops]
  | nil, (i + 1) :: q => by simp [routeAt?, append, tops]
  | cons r cs rest, [] => by simp [routeAt?]
  | cons r cs rest, 0 :: q => by
      have hne : 0 :: q ≠ [(cons r cs rest).tops.length] := by simp [tops]
      rw [if_neg hne]
      cases q <;> rfl
  | cons r cs rest, (i + 1) :: q => by
      have ih := routeAt?_append new rest (i :: q)
      simpa [routeAt?, append, tops] using ih

/-- The new route stands at the next position of its row, with nothing under it. -/
theorem at?_put_new (new : Route) : ∀ {place : Place} {f : Forest} {above : Option Route},
    spot? above place f = some (parent, row) →
    (f.put new place).at? (place ++ [row.tops.length]) = some ⟨new, nil⟩
  | [], f, _, h => by
      cases h
      rw [put_root, List.nil_append, at?_append_new]
  | _ :: _, nil, _, h => by simp [spot?] at h
  | 0 :: place, cons r cs rest, _, h => by
      rw [spot?_under] at h
      have ih := at?_put_new new h
      cases place with
      | nil => exact ih
      | cons i place => exact ih
  | (i + 1) :: place, cons r cs rest, _, h => by
      rw [spot?_beside] at h
      have ih := at?_put_new new h
      rw [put_beside]
      exact ih

/-- Every other place holds the route it held. -/
theorem routeAt?_put (new : Route) : ∀ {place : Place} {f : Forest} {above : Option Route},
    spot? above place f = some (parent, row) → ∀ q, (f.put new place).routeAt? q =
      if q = place ++ [row.tops.length] then some new else f.routeAt? q
  | [], f, _, h, q => by
      cases h
      rw [put_root, List.nil_append, routeAt?_append]
  | _ :: _, nil, _, h, _ => by simp [spot?] at h
  | 0 :: place, cons r cs rest, _, h, q => by
      rw [spot?_under] at h
      match q with
      | [] => simp [routeAt?]
      | [0] => simp [routeAt?]
      | 0 :: i :: q => simpa [routeAt?] using routeAt?_put new h (i :: q)
      | (i + 1) :: q => simp [routeAt?]
  | (i + 1) :: place, cons r cs rest, _, h, q => by
      rw [spot?_beside] at h
      match q with
      | [] => simp [routeAt?]
      | 0 :: q =>
          simp only [put_beside, List.cons_append, List.cons.injEq, Nat.zero_ne_add_one, false_and, if_false]
          cases q <;> rfl
      | (j + 1) :: q => simpa [routeAt?] using routeAt?_put new h (j :: q)

/-- The row at the place has the new route behind what was in it. -/
theorem spot?_put (new : Route) : ∀ {place : Place} {f : Forest} {above : Option Route},
    spot? above place f = some (parent, row) →
    spot? above place (f.put new place) = some (parent, row.append new)
  | [], f, _, h => by
      cases h
      rw [put_root]
      rfl
  | _ :: _, nil, _, h => by simp [spot?] at h
  | 0 :: place, cons r cs rest, _, h => by
      rw [spot?_under] at h
      rw [put_under, spot?_under, spot?_put new h]
  | (i + 1) :: place, cons r cs rest, _, h => by
      rw [spot?_beside] at h
      rw [put_beside, spot?_beside, spot?_put new h]

theorem nodes_append (f : Forest) (new : Route) : (f.append new).nodes = f.nodes ++ [⟨new, nil⟩] := by
  induction f with
  | nil => rfl
  | cons r cs rest _ ih => rw [append, nodes, ih, nodes, List.cons_append, List.append_assoc]

/-- A route put deeper leaves the routes of the row as they are. -/
theorem tops_put (new : Route) : ∀ (f : Forest) (i : Nat) (place : Place),
    (f.put new (i :: place)).tops.map Node.route = f.tops.map Node.route
  | nil, _, _ => rfl
  | cons r cs rest, 0, place => rfl
  | cons r cs rest, i + 1, place => by
      rw [put_beside, tops, tops, List.map_cons, List.map_cons, tops_put new rest i place]

/-- A route that is named after the one above it, and unlike its siblings, keeps a forest well named. -/
theorem WellNamed.put {new : Route} (hname : Route.checkName new.name = .ok ())
    (hqualified : new.qualifiedName = qualify (parent.map Route.qualifiedName) new.name)
    (hnew : ∀ n ∈ row.tops, n.route.qualifiedName ≠ new.qualifiedName) :
    ∀ (above : Option Route) {place : Place} {f : Forest}, f.WellNamed (above.map Route.qualifiedName) →
      spot? above place f = some (parent, row) → (f.put new place).WellNamed (above.map Route.qualifiedName)
  | _, [], f, hf, h => by
      cases h
      rw [put_root]
      exact hf.append hname hqualified hnew
  | _, _ :: _, nil, _, h => by simp [spot?] at h
  | _, 0 :: place, cons r cs rest, ⟨hr, hr', hsiblings, hcs, hrest⟩, h => by
      rw [spot?_under] at h
      rw [put_under]
      exact ⟨hr, hr', hsiblings, WellNamed.put hname hqualified hnew (some r) hcs h, hrest⟩
  | above, (i + 1) :: place, cons r cs rest, ⟨hr, hr', hsiblings, hcs, hrest⟩, h => by
      rw [spot?_beside] at h
      rw [put_beside]
      refine ⟨hr, hr', fun n hn => ?_, hcs, WellNamed.put hname hqualified hnew above hrest h⟩
      have hmem : n.route ∈ rest.tops.map Node.route := by
        rw [← tops_put new rest i place]
        exact List.mem_map_of_mem hn
      obtain ⟨m, hm, heq⟩ := List.mem_map.1 hmem
      exact heq ▸ hsiblings m hm

/-- What is put into a forest is all that comes to its routes. -/
theorem mem_routes_put {new r : Route} : ∀ {place : Place} {f : Forest},
    r ∈ (f.put new place).routes → r = new ∨ r ∈ f.routes
  | [], f, h => by
      rw [put_root, routes, nodes_append, List.map_append, List.mem_append] at h
      exact h.symm.imp_left List.mem_singleton.1
  | _ :: _, nil, h => .inr h
  | 0 :: place, cons s cs rest, h => by
      rw [put_under, routes_cons, List.mem_cons, List.mem_append] at h
      rw [routes_cons, List.mem_cons, List.mem_append]
      rcases h with rfl | h | h
      · exact .inr (.inl rfl)
      · exact (mem_routes_put h).imp_right fun h => .inr (.inl h)
      · exact .inr (.inr (.inr h))
  | (i + 1) :: place, cons s cs rest, h => by
      rw [put_beside, routes_cons, List.mem_cons, List.mem_append] at h
      rw [routes_cons, List.mem_cons, List.mem_append]
      rcases h with rfl | h | h
      · exact .inr (.inl rfl)
      · exact .inr (.inr (.inl h))
      · exact (mem_routes_put h).imp_right fun h => .inr (.inr h)

/-! ## The open end -/

/-- Whether a place is the top level, the place of the last route in preorder, or one on the way down to it. -/
def OpenAt : Place → Forest → Prop
  | [], _ => True
  | _ :: _, nil => False
  | 0 :: place, cons _ cs rest => rest = nil ∧ OpenAt place cs
  | (i + 1) :: place, cons _ _ rest => OpenAt (i :: place) rest

@[simp] theorem openAt_root (f : Forest) : OpenAt [] f := by
  cases f <;> trivial

/-- Above an open place a forest is open. -/
theorem OpenAt.ancestor : ∀ {p q : Place} {f : Forest}, OpenAt q f → p <+: q → OpenAt p f
  | [], _, f, _, _ => openAt_root f
  | i :: p, _, f, hq, hp => by
      obtain ⟨q, rfl⟩ := hp
      match i, f, hq with
      | 0, cons _ _ _, hq => exact ⟨hq.1, hq.2.ancestor (List.prefix_append p q)⟩
      | i + 1, cons _ _ rest, hq =>
          have hrest : OpenAt (i :: p ++ q) rest := hq
          exact hrest.ancestor (List.prefix_append (i :: p) q)

theorem openAt_append_new (f : Forest) (new : Route) : OpenAt [f.tops.length] (f.append new) := by
  induction f with
  | nil => exact ⟨rfl, trivial⟩
  | cons r cs rest _ ih => exact ih

/-- A forest is open at the place of what was put at its open end. -/
theorem openAt_put (new : Route) : ∀ {place : Place} {f : Forest} {above : Option Route},
    OpenAt place f → spot? above place f = some (parent, row) →
    OpenAt (place ++ [row.tops.length]) (f.put new place)
  | [], f, _, _, h => by
      cases h
      rw [put_root]
      exact openAt_append_new _ new
  | 0 :: place, cons r cs rest, _, hopen, h => by
      rw [spot?_under] at h
      rw [put_under]
      exact ⟨hopen.1, openAt_put new hopen.2 h⟩
  | (i + 1) :: place, cons r cs rest, _, hopen, h => by
      rw [spot?_beside] at h
      have hrest : OpenAt (i :: place) rest := hopen
      rw [put_beside]
      exact openAt_put new hrest h

end Forest

/-- A node with the same route, under which lies all that lay there, in the same order and before anything
else. -/
def Node.GrewTo (n m : Node) : Prop := m.route = n.route ∧ n.children.routes <+: m.children.routes

theorem Node.GrewTo.refl (n : Node) : n.GrewTo n := ⟨rfl, List.prefix_refl _⟩

namespace Forest

theorem map_route_of_grewTo {l m : List Node} (h : List.Forall₂ Node.GrewTo l m) :
    m.map Node.route = l.map Node.route := by
  induction h with
  | nil => rfl
  | cons hn _ ih => rw [List.map_cons, List.map_cons, hn.1, ih]

/-- What is put at the open end comes last in preorder, after all other nodes in their order. -/
theorem exists_nodes_put (new : Route) : ∀ {place : Place} {f : Forest}, OpenAt place f →
    ∃ grown, (f.put new place).nodes = grown ++ [⟨new, nil⟩] ∧ List.Forall₂ Node.GrewTo f.nodes grown
  | [], f, _ => ⟨f.nodes, by rw [put_root, nodes_append], List.forall₂_same.2 fun n _ => .refl n⟩
  | 0 :: place, cons r cs rest, ⟨hrest, hopen⟩ => by
      -- Nothing comes after the nodes under the open node; otherwise the new route would not be the last.
      subst hrest
      obtain ⟨grown, hnodes, hgrown⟩ := exists_nodes_put new hopen
      have hroutes : cs.routes <+: (cs.put new place).routes := by
        rw [routes, routes, hnodes, List.map_append, map_route_of_grewTo hgrown]
        exact List.prefix_append _ _
      refine ⟨⟨r, cs.put new place⟩ :: grown, ?_, ?_⟩
      · rw [put_under, nodes, nodes, List.append_nil, hnodes, List.cons_append]
      · rw [nodes, nodes, List.append_nil]
        exact .cons ⟨rfl, hroutes⟩ hgrown
  | (i + 1) :: place, cons r cs rest, hopen => by
      have hrest : OpenAt (i :: place) rest := hopen
      obtain ⟨grown, hnodes, hgrown⟩ := exists_nodes_put new hrest
      refine ⟨⟨r, cs⟩ :: (cs.nodes ++ grown), ?_, ?_⟩
      · rw [put_beside, nodes, hnodes, List.cons_append, List.append_assoc]
      · rw [nodes]
        exact .cons (.refl _) (List.rel_append (List.forall₂_same.2 fun n _ => .refl n) hgrown)

/-- What is put at the open end comes last in preorder. -/
theorem routes_put (new : Route) {place : Place} {f : Forest} (h : OpenAt place f) :
    (f.put new place).routes = f.routes ++ [new] := by
  obtain ⟨grown, hnodes, hgrown⟩ := exists_nodes_put new h
  rw [routes, hnodes, List.map_append, map_route_of_grewTo hgrown]
  rfl

end Forest

end Signpost
