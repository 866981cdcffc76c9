import RouteTable.HandlerTree
import RouteTable.Proofs.RepeatedKeys

/-!
# What a handler tree holds

A tree is a map from segments to the handlers that stand there: a change at some segments changes what stands at these
and nothing else (`HandlerTree.own_nodeAt_edit`).  Of the modules mounted at a path the last one with an export for a
verb counts, and of the callable ones the last (`HandlerTree.get?_verbs_mountAll`, `HandlerTree.any_mountAll`).  So
lookups answer the latest registration for the verb, else the latest for every verb, and the size of a tree counts what
was registered (`HandlerTree.lookup_build`).
-/

namespace RouteTable

namespace Module

variable {α : Type}

/-- The value that a module has under a key of its own. -/
def export? (key : String) : Module α → Option α
  | .callable _ => none
  | .exports entries => OrderedMap.get? entries key

/-- The value of a callable module. -/
def callable? : Module α → Option α
  | .callable value => some value
  | .exports _ => none

/-- No verb is exported twice. -/
def Distinct : Module α → Prop
  | .callable _ => True
  | .exports entries => (OrderedMap.keys entries).Nodup

end Module

theorem OrderedMap.length_put {κ α : Type} [DecidableEq κ] (m : OrderedMap κ α) (key : κ) (value : α) :
    (m.put key value).length = m.length + if (m.get? key).isSome then 0 else 1 := by
  have keys : (m.put key value).keys.length = m.keys.length + if (m.get? key).isSome then 0 else 1 := by
    rw [keys_put]
    simp only [isSome_get?_iff]
    split
    · rfl
    · rw [List.length_append, List.length_singleton]
  rwa [OrderedMap.keys, OrderedMap.keys, List.length_map, List.length_map] at keys

theorem card_toFinset_concat_of_mem {κ : Type} [DecidableEq κ] {l : List κ} {key : κ} (h : key ∈ l) :
    (l ++ [key]).toFinset.card = l.toFinset.card := by
  congr 1
  ext k
  simp only [List.mem_toFinset, List.mem_append, List.mem_singleton, or_iff_left_iff_imp]
  rintro rfl
  exact h

theorem card_toFinset_concat_of_not_mem {κ : Type} [DecidableEq κ] {l : List κ} {key : κ} (h : key ∉ l) :
    (l ++ [key]).toFinset.card = l.toFinset.card + 1 := by
  rw [← Finset.card_insert_of_notMem (mt List.mem_toFinset.1 h)]
  congr 1
  ext k
  simp

namespace HandlerTree

/-! ### Nodes -/

/-- The node at some segments; where nothing was mounted it is empty. -/
def nodeAt (path : List String) (t : HandlerTree) : HandlerTree := (at? path t).getD empty

/-- What a node holds itself: handlers by verb, and one for every verb. -/
def own (t : HandlerTree) : OrderedMap String Handler × Option Handler := (t.verbs, t.any)

theorem eta (t : HandlerTree) : node t.children t.verbs t.any = t := by
  cases t
  rfl

@[simp] theorem nodeAt_nil (t : HandlerTree) : nodeAt [] t = t := rfl

theorem nodeAt_empty (path : List String) : nodeAt path empty = empty := by
  cases path <;> rfl

theorem nodeAt_cons (s : String) (rest : List String) (t : HandlerTree) :
    nodeAt (s :: rest) t = nodeAt rest ((OrderedMap.get? t.children s).getD empty) := by
  cases t with
  | node children verbs any =>
    rw [nodeAt, at?]
    simp only [HandlerTree.children]
    cases OrderedMap.get? children s with
    | none => exact (nodeAt_empty rest).symm
    | some child => rfl

theorem lookup_eq (t : HandlerTree) (path : String) (method : Method) :
    t.lookup path method =
      (OrderedMap.get? (nodeAt (segments path) t).verbs method.key).or (nodeAt (segments path) t).any := by
  rw [lookup, nodeAt]
  cases at? (segments path) t <;> rfl

variable {change : HandlerTree → HandlerTree}

/-- A change at some segments is seen there and nowhere else. -/
theorem own_nodeAt_edit (keeps : ∀ n, (change n).children = n.children) (path other : List String) (t : HandlerTree) :
    (nodeAt other (edit change path t)).own =
      if path = other then (change (nodeAt path t)).own else (nodeAt other t).own := by
  -- on the segments of the change; the other path may end above it, branch off, or go on below it
  induction path generalizing other t with
  | nil =>
    cases other with
    | nil => rfl
    | cons s rest =>
      rw [edit, nodeAt_cons, nodeAt_cons, keeps]
      rfl
  | cons s path ih =>
    cases t with
    | node children verbs any =>
      cases other with
      | nil => rfl
      | cons r rest =>
        rw [edit, nodeAt_cons, nodeAt_cons, nodeAt_cons]
        simp only [HandlerTree.children]
        by_cases h : s = r
        · subst h
          rw [OrderedMap.get?_put_self, Option.getD_some, ih]
          simp
        · rw [OrderedMap.get?_put_of_ne _ (Ne.symm h), if_neg (by simp [h])]

/-! ### Modules mounted one after the other -/

/-- Mounts modules at segments, one after the other. -/
def mountAll (t : HandlerTree) (mounts : List (List String × Module Handler)) : HandlerTree :=
  mounts.foldl (fun t m => t.mount m.1 m.2) t

/-- A node with what a module offers. -/
def hold (module : Module Handler) (n : HandlerTree) : HandlerTree :=
  match module with
  | .callable handler => node n.children n.verbs (some handler)
  | .exports entries => node n.children (OrderedMap.putAll n.verbs entries) n.any

theorem mount_eq (t : HandlerTree) (path : List String) (module : Module Handler) :
    t.mount path module = edit (hold module) path t := rfl

theorem children_hold (module : Module Handler) (n : HandlerTree) : (hold module n).children = n.children := by
  cases module <;> rfl

theorem get?_verbs_hold {module : Module Handler} (distinct : module.Distinct) (n : HandlerTree) (key : String) :
    OrderedMap.get? (hold module n).verbs key = (module.export? key).or (OrderedMap.get? n.verbs key) := by
  cases module with
  | callable handler => rfl
  | exports entries => exact OrderedMap.get?_putAll_of_nodup n.verbs distinct key

theorem any_hold (module : Module Handler) (n : HandlerTree) : (hold module n).any = module.callable?.or n.any := by
  cases module <;> rfl

theorem own_nodeAt_mount (t : HandlerTree) (path other : List String) (module : Module Handler) :
    (nodeAt other (t.mount path module)).own =
      if path = other then (hold module (nodeAt other t)).own else (nodeAt other t).own := by
  rw [mount_eq, own_nodeAt_edit (children_hold module)]
  split
  · next same => rw [same]
  · rfl

/-- Of the modules mounted at a path the last one that offers something counts, and it goes before what was there. -/
theorem view_mountAll {view : OrderedMap String Handler × Option Handler → Option Handler}
    {offer : Module Handler → Option Handler} {mounts : List (List String × Module Handler)}
    (held : ∀ m ∈ mounts, ∀ n, view (hold m.2 n).own = (offer m.2).or (view n.own)) (t : HandlerTree)
    (path : List String) :
    view (nodeAt path (t.mountAll mounts)).own =
      (mounts.reverse.findSome? fun m => if m.1 = path then offer m.2 else none).or (view (nodeAt path t).own) := by
  induction mounts generalizing t with
  | nil => rfl
  | cons m mounts ih =>
    rw [List.forall_mem_cons] at held
    have one : view (nodeAt path (t.mount m.1 m.2)).own =
        (if m.1 = path then offer m.2 else none).or (view (nodeAt path t).own) := by
      rw [own_nodeAt_mount]
      split
      · exact held.1 _
      · rfl
    have step : t.mountAll (m :: mounts) = (t.mount m.1 m.2).mountAll mounts := rfl
    rw [step, ih held.2, one, List.reverse_cons, List.findSome?_append, Option.or_assoc]
    simp

theorem get?_verbs_mountAll {mounts : List (List String × Module Handler)}
    (distinct : ∀ m ∈ mounts, m.2.Distinct) (path : List String) (key : String) :
    OrderedMap.get? (nodeAt path (empty.mountAll mounts)).verbs key =
      mounts.reverse.findSome? fun m => if m.1 = path then m.2.export? key else none := by
  have held : ∀ m ∈ mounts, ∀ n, OrderedMap.get? (hold m.2 n).own.1 key =
      (m.2.export? key).or (OrderedMap.get? n.own.1 key) := fun m mem n => get?_verbs_hold (distinct m mem) n key
  have h := @view_mountAll (fun own => OrderedMap.get? own.1 key) _ mounts held empty path
  rwa [nodeAt_empty, show OrderedMap.get? empty.own.1 key = none from rfl, Option.or_none] at h

theorem any_mountAll (mounts : List (List String × Module Handler)) (path : List String) :
    (nodeAt path (empty.mountAll mounts)).any =
      mounts.reverse.findSome? fun m => if m.1 = path then m.2.callable? else none := by
  have h := @view_mountAll Prod.snd _ mounts (fun m _ n => any_hold m.2 n) empty path
  rwa [nodeAt_empty, show empty.own.2 = none from rfl, Option.or_none] at h

/-- A lookup answers the last export for the verb at its segments, else the last callable module there. -/
theorem lookup_mountAll {mounts : List (List String × Module Handler)} (distinct : ∀ m ∈ mounts, m.2.Distinct)
    (path : String) (method : Method) :
    (empty.mountAll mounts).lookup path method =
      (mounts.reverse.findSome? fun m => if m.1 = segments path then m.2.export? method.key else none).or
        (mounts.reverse.findSome? fun m => if m.1 = segments path then m.2.callable? else none) := by
  rw [lookup_eq, get?_verbs_mountAll distinct, any_mountAll]

/-! ### Sizes -/

theorem size_node (children : List (String × HandlerTree)) (verbs : OrderedMap String Handler) (any : Option Handler) :
    (node children verbs any).size = verbs.length + (if any.isSome then 1 else 0) + sizeChildren children := by
  rw [size]

theorem sizeChildren_put (children : OrderedMap String HandlerTree) (s : String) (t : HandlerTree) :
    sizeChildren (OrderedMap.put children s t) + ((OrderedMap.get? children s).getD empty).size =
      sizeChildren children + t.size := by
  induction children with
  | nil => simp [OrderedMap.put, OrderedMap.get?, sizeChildren, size_node, empty]
  | cons e rest ih =>
    rw [OrderedMap.put, OrderedMap.get?]
    split
    · rw [sizeChildren, sizeChildren, Option.getD_some]
      omega
    · rw [sizeChildren, sizeChildren]
      omega

/-- A change at some segments changes the size by what it changes there. -/
theorem size_edit (change : HandlerTree → HandlerTree) (path : List String) (t : HandlerTree) :
    (edit change path t).size + (nodeAt path t).size = t.size + (change (nodeAt path t)).size := by
  induction path generalizing t with
  | nil => exact Nat.add_comm ..
  | cons s rest ih =>
    cases t with
    | node children verbs any =>
      have below := ih ((OrderedMap.get? children s).getD empty)
      have beside := sizeChildren_put children s (edit change rest ((OrderedMap.get? children s).getD empty))
      rw [edit, nodeAt_cons, size_node, size_node]
      simp only [HandlerTree.children] at below ⊢
      omega

theorem size_insert (t : HandlerTree) (path : String) (method : Method) (handler : Handler) :
    (t.insert path method handler).size =
      t.size + if (OrderedMap.get? (nodeAt (segments path) t).verbs method.key).isSome then 0 else 1 := by
  have grown : ∀ children verbs any, (node children (OrderedMap.put verbs method.key handler) any).size =
      (node children verbs any).size + if (OrderedMap.get? verbs method.key).isSome then 0 else 1 := by
    intro children verbs any
    rw [size_node, size_node, OrderedMap.length_put]
    omega
  have h := size_edit (fun n => node n.children (OrderedMap.put n.verbs method.key handler) n.any) (segments path) t
  rw [grown, eta] at h
  rw [insert]
  omega

theorem size_insertAny (t : HandlerTree) (path : String) (handler : Handler) :
    (t.insertAny path handler).size = t.size + if (nodeAt (segments path) t).any.isSome then 0 else 1 := by
  have grown : ∀ children verbs any, (node children verbs (some handler)).size =
      (node children verbs any).size + if any.isSome then 0 else 1 := by
    intro children verbs any
    rw [size_node, size_node]
    cases any with
    | none => exact Nat.add_right_comm ..
    | some _ => rfl
  have h := size_edit (fun n => node n.children n.verbs (some handler)) (segments path) t
  rw [grown _ _ (nodeAt (segments path) t).any, eta] at h
  rw [insertAny]
  omega

/-! ### Registrations -/

/-- A handler is registered for a verb or for every verb. -/
inductive Registration
  | verb (path : String) (method : Method) (handler : Handler)
  | any (path : String) (handler : Handler)

namespace Registration

def apply (t : HandlerTree) : Registration → HandlerTree
  | verb path method handler => t.insert path method handler
  | any path handler => t.insertAny path handler

/-- The handler that is registered for a method under the segments of a path. -/
def forVerb? (path : String) (method : Method) : Registration → Option Handler
  | verb p m handler => if segments p = segments path ∧ m.key = method.key then some handler else none
  | any _ _ => none

/-- The handler that is registered for every method under the segments of a path. -/
def forAny? (path : String) : Registration → Option Handler
  | verb _ _ _ => none
  | any p handler => if segments p = segments path then some handler else none

/-- Where a handler for a verb is registered. -/
def verbKey? : Registration → Option (List String × String)
  | verb path method _ => some (segments path, method.key)
  | any _ _ => none

/-- Where a handler for every verb is registered. -/
def anyKey? : Registration → Option (List String)
  | verb _ _ _ => none
  | any path _ => some (segments path)

/-- The module that a registration comes to. -/
def mount : Registration → List String × Module Handler
  | verb path method handler => (segments path, .exports [(method.key, handler)])
  | any path handler => (segments path, .callable handler)

theorem apply_eq (t : HandlerTree) (r : Registration) : r.apply t = t.mount r.mount.1 r.mount.2 := by
  cases r <;> rfl

theorem distinct_mount (r : Registration) : r.mount.2.Distinct := by
  cases r with
  | verb path method handler => exact List.nodup_singleton _
  | any path handler => trivial

end Registration

/-- The tree after some registrations. -/
def build (rs : List Registration) : HandlerTree := rs.foldl (fun t r => r.apply t) empty

theorem build_eq (rs : List Registration) : build rs = empty.mountAll (rs.map Registration.mount) := by
  rw [build, mountAll, List.foldl_map]
  simp only [Registration.apply_eq]

theorem build_concat (rs : List Registration) (r : Registration) : build (rs ++ [r]) = r.apply (build rs) := by
  simp [build]

/-- Something is found among registrations if one of them has the place that is looked at. -/
theorem isSome_findSome?_mount_iff {κ : Type} {found : List String × Module Handler → Option Handler}
    {key? : Registration → Option κ} {place : κ} (h : ∀ r : Registration, (found r.mount).isSome ↔ key? r = some place)
    (rs : List Registration) :
    ((rs.map Registration.mount).reverse.findSome? found).isSome ↔ place ∈ rs.filterMap key? := by
  rw [← List.map_reverse, List.findSome?_map, List.findSome?_isSome_iff]
  simp only [List.mem_reverse, List.mem_filterMap, Function.comp_apply, h]

theorem get?_verbs_build (rs : List Registration) (path : List String) (key : String) :
    (OrderedMap.get? (nodeAt path (build rs)).verbs key).isSome ↔ (path, key) ∈ rs.filterMap Registration.verbKey? := by
  rw [build_eq, get?_verbs_mountAll (by simp [Registration.distinct_mount])]
  refine isSome_findSome?_mount_iff (fun r => ?_) rs
  cases r with
  | verb p method handler =>
    by_cases h : segments p = path <;> by_cases hk : method.key = key <;>
      simp [Registration.mount, Registration.verbKey?, Module.export?, OrderedMap.get?, h, hk]
  | any p handler =>
    by_cases h : segments p = path <;> simp [Registration.mount, Registration.verbKey?, Module.export?, h]

theorem any_build (rs : List Registration) (path : List String) :
    (nodeAt path (build rs)).any.isSome ↔ path ∈ rs.filterMap Registration.anyKey? := by
  rw [build_eq, any_mountAll]
  refine isSome_findSome?_mount_iff (fun r => ?_) rs
  cases r with
  | verb p method handler =>
    by_cases h : segments p = path <;> simp [Registration.mount, Registration.anyKey?, Module.callable?, h]
  | any p handler =>
    by_cases h : segments p = path <;> simp [Registration.mount, Registration.anyKey?, Module.callable?, h]

theorem size_build (rs : List Registration) :
    (build rs).size =
      (rs.filterMap Registration.verbKey?).toFinset.card + (rs.filterMap Registration.anyKey?).toFinset.card := by
  -- along the registrations: one more handler is counted exactly when its place is new
  induction rs using List.reverseRecOn with
  | nil => rfl
  | append_singleton rs r ih =>
    rw [build_concat, List.filterMap_append, List.filterMap_append]
    cases r with
    | verb path method handler =>
      have place := get?_verbs_build rs (segments path) method.key
      simp only [List.filterMap_cons, List.filterMap_nil, Registration.verbKey?, Registration.anyKey?, List.append_nil]
      rw [Registration.apply, size_insert, ih]
      by_cases h : (segments path, method.key) ∈ rs.filterMap Registration.verbKey?
      · rw [if_pos (place.2 h), card_toFinset_concat_of_mem h, Nat.add_zero]
      · rw [if_neg (mt place.1 h), card_toFinset_concat_of_not_mem h, Nat.add_right_comm]
    | any path handler =>
      have place := any_build rs (segments path)
      simp only [List.filterMap_cons, List.filterMap_nil, Registration.verbKey?, Registration.anyKey?, List.append_nil]
      rw [Registration.apply, size_insertAny, ih]
      by_cases h : segments path ∈ rs.filterMap Registration.anyKey?
      · rw [if_pos (place.2 h), card_toFinset_concat_of_mem h, Nat.add_zero]
      · rw [if_neg (mt place.1 h), card_toFinset_concat_of_not_mem h, Nat.add_assoc]

theorem forVerb?_eq (path : String) (method : Method) (r : Registration) :
    (if r.mount.1 = segments path then r.mount.2.export? method.key else none) = r.forVerb? path method := by
  cases r with
  | verb p m handler =>
    by_cases h : segments p = segments path <;>
      simp [Registration.mount, Registration.forVerb?, Module.export?, OrderedMap.get?, h]
  | any p handler => exact ite_self _

theorem forAny?_eq (path : String) (r : Registration) :
    (if r.mount.1 = segments path then r.mount.2.callable? else none) = r.forAny? path := by
  cases r with
  | verb p m handler => exact ite_self _
  | any p handler => rfl

/-- After any registrations a lookup answers the handler that was registered last for the verb under the segments of the
path, else the one that was registered last for every verb there.  The size counts the places where a handler was
registered, each once, and only a tree without registrations is empty. -/
theorem lookup_build (rs : List Registration) :
    (∀ path method, (build rs).lookup path method =
      (rs.reverse.findSome? (Registration.forVerb? path method)).or
        (rs.reverse.findSome? (Registration.forAny? path))) ∧
    (build rs).size =
      (rs.filterMap Registration.verbKey?).toFinset.card + (rs.filterMap Registration.anyKey?).toFinset.card ∧
    ((build rs).isEmpty = true ↔ rs = []) := by
  have size := size_build rs
  refine ⟨fun path method => ?_, size, ?_⟩
  · rw [build_eq, lookup_mountAll (by simp [Registration.distinct_mount]), ← List.map_reverse, List.findSome?_map,
      List.findSome?_map]
    simp only [Function.comp_def, forVerb?_eq, forAny?_eq]
  · -- every registration has a place, so without places there are none
    rw [isEmpty, beq_iff_eq, size, Nat.add_eq_zero_iff, Finset.card_eq_zero, Finset.card_eq_zero,
      List.toFinset_eq_empty_iff, List.toFinset_eq_empty_iff]
    cases rs with
    | nil => simp
    | cons r rest => cases r <;> simp [Registration.verbKey?, Registration.anyKey?]

end HandlerTree

end RouteTable
