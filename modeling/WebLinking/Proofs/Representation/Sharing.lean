import WebLinking.Proofs.Representation.ElementType
import WebLinking.Representation.Workspace

/-!
# Representations that could share their links

Calls are made on the representation that a name stands for. In a workspace each representation
has links of its own, so that a call on one of them cannot reach another. Here links are kept in
lists that are written in place, and two representations with the same list see each other's
changes. Offering a type to elements that have none gives a representation with a new list, and
that is what keeps it apart from the one that it was offered to. As long as no two
representations have the same list, calls do what they do in a workspace.
-/

namespace WebLinking

namespace Workspace

/-- A call on the representation that a name stands for. -/
structure Call where
  /-- The name that the call is made on. -/
  name : Text
  /-- The change that is asked for. -/
  change : Change
  /-- The name for what is given when a type is offered. -/
  target : Text

/-- The workspace after a call. One that fails, or that is made on no representation, does
nothing. -/
def call (w : Workspace) (c : Call) : Workspace :=
  match w.get? c.name with
  | none => w
  | some m =>
    match c.change.fallback? with
    | none => w.update c.name (m.changed c.change)
    | some elementType =>
      match w.withFallbackType c.name m elementType c.target with
      | .ok (_, _, after) => after
      | .error _ => w

/-- The workspace after several calls. -/
def callAll (w : Workspace) (cs : List Call) : Workspace := cs.foldl call w

variable {w : Workspace} {m : Representation} {name : Text}

/-- To replace a representation by itself is to do nothing. -/
theorem update_self (hget : w.get? name = some m) : w.update name m = w := by
  obtain ⟨place, hplace, hm⟩ := Option.bind_eq_some_iff.mp hget
  obtain ⟨hlt, rfl⟩ := List.getElem?_eq_some_iff.mp hm
  rw [update, hplace]
  simp only [List.set_getElem_self]

/-- A step that changes links is a call; one that fails leaves the workspace as it is. -/
theorem call_ofStep (hget : w.get? name = some m) {step : Step} {c : Change}
    (h : Change.ofStep? step = some c) (target : Text) :
    w.call ⟨name, c, target⟩ =
      match w.take name m step with
      | .ok (_, _, after) => after
      | .error _ => w := by
  have hfallback : c.fallback? = none := by
    cases step <;> cases h <;> rfl
  simp only [call, hget, hfallback, take]
  cases step with
  | add links =>
    cases h
    rfl
  | addIf condition supply =>
    cases h
    rfl
  | removeLinks rel =>
    cases h
    simp only [Representation.changed, Representation.change, Representation.take]
    cases m.removeLinks rel with
    | ok m' => rfl
    | error fault => exact update_self hget
  | removeIf test =>
    cases h
    simp only [Representation.changed, Representation.change, Representation.take]
    cases m.removeIf test.run with
    | ok m' => rfl
    | error fault => exact update_self hget
  | _ => cases h

end Workspace

open Workspace (Call)

/-- A representation with its links in a list that it may share. -/
structure Kept where
  /-- What it carries besides its links. -/
  payload : Payload
  /-- Its label. -/
  label : Value
  /-- The place of the list of its links. -/
  list : Nat

/-- Lists of links, the representations that have them, and the names for these. -/
structure Store where
  /-- The lists of links. -/
  lists : List (List Link)
  /-- The representations. -/
  kept : List Kept
  /-- The names, each with the place of its representation; the latest comes first. -/
  names : List (Text × Nat)
  /-- The list of each representation is there. -/
  list_lt : ∀ k ∈ kept, k.list < lists.length

namespace Store

/-- A store of nothing. -/
def empty : Store := ⟨[], [], [], nofun⟩

/-- A representation as it is at the moment. -/
def read (s : Store) (k : Kept) : Representation :=
  { payload := k.payload, links := s.lists[k.list]?.getD [], label := k.label }

/-- The place of the representation that a name stands for. -/
def place? (s : Store) (name : Text) : Option Nat := s.names.lookup name

/-- The representation that a name stands for. -/
def get? (s : Store) (name : Text) : Option Kept := (s.place? name).bind (s.kept[·]?)

/-- The representation that a name stands for, as it is at the moment. -/
def read? (s : Store) (name : Text) : Option Representation := (s.get? name).map s.read

/-- Puts a new representation under a name. It has a new list. -/
def put (s : Store) (name : Text) (m : Representation) : Store where
  lists := s.lists ++ [m.links]
  kept := s.kept ++ [⟨m.payload, m.label, s.lists.length⟩]
  names := (name, s.kept.length) :: s.names
  list_lt := by
    intro k hk
    rw [List.length_append]
    rcases List.mem_append.mp hk with hk | hk
    · exact Nat.lt_add_right _ (s.list_lt k hk)
    · rw [List.mem_singleton.mp hk]
      exact Nat.lt_succ_self _

/-- Lets a name stand for the representation that another name stands for. -/
def share (s : Store) (name other : Text) : Store :=
  match s.place? other with
  | some place => { s with names := (name, place) :: s.names }
  | none => s

/-- Writes links to the list of a representation. -/
def write (s : Store) (k : Kept) (links : List Link) : Store where
  lists := s.lists.set k.list links
  kept := s.kept
  names := s.names
  list_lt := by simpa only [List.length_set] using s.list_lt

/-- The store after a call, which writes a list of links in its place or makes a new
representation. -/
def call (s : Store) (c : Call) : Store :=
  match s.get? c.name with
  | none => s
  | some k =>
    match c.change.fallback? with
    | none => s.write k ((s.read k).changed c.change).links
    | some elementType =>
      match (s.read k).withFallbackType? elementType with
      | .ok (some typed) => s.put c.target typed
      | .ok none => s.share c.target c.name
      | .error _ => s

/-- The store after several calls. -/
def callAll (s : Store) (cs : List Call) : Store := cs.foldl call s

/-- The store after several changes, each of what was given last under a name. -/
def goOn (s : Store) (name : Text) (cs : List Change) : Store :=
  s.callAll (cs.map fun c => ⟨name, c, name⟩)

/-- The changes that calls make to a list of links, by whoever has the list at that moment. -/
def changesTo (s : Store) (list : Nat) : List Call → List Change
  | [] => []
  | c :: cs =>
    let more := (s.call c).changesTo list cs
    if (s.get? c.name).map Kept.list = some list ∧ c.change.fallback? = none then c.change :: more
    else more

variable {s : Store} {k k' : Kept} {m : Representation} {name : Text}

/-- A representation that has a name is in the store. -/
theorem mem_kept_of_get? (h : s.get? name = some k) : k ∈ s.kept := by
  obtain ⟨place, -, hk⟩ := Option.bind_eq_some_iff.mp h
  exact List.mem_of_getElem? hk

/-- A new representation is under its name. -/
theorem get?_put_self (s : Store) (name : Text) (m : Representation) :
    (s.put name m).get? name = some ⟨m.payload, m.label, s.lists.length⟩ := by
  simp [get?, place?, put]

/-- A new representation is as it was when it was put into the store. -/
theorem read_put_self (s : Store) (name : Text) (m : Representation) :
    (s.put name m).read ⟨m.payload, m.label, s.lists.length⟩ = m := by
  simp [read, put]

/-- A new representation leaves those that are there as they are. -/
theorem read_put (hk : k ∈ s.kept) (name : Text) (m : Representation) :
    (s.put name m).read k = s.read k := by
  simp only [read, put, List.getElem?_append_left (s.list_lt k hk)]

/-- Another name leaves representations as they are. -/
theorem read_share (s : Store) (name other : Text) (k : Kept) :
    (s.share name other).read k = s.read k := by
  unfold share
  split <;> rfl

/-- Another name stands for the same representation. -/
theorem place?_share (h : (s.place? other).isSome) (name : Text) :
    (s.share name other).place? name = s.place? other := by
  obtain ⟨place, hplace⟩ := Option.isSome_iff_exists.mp h
  rw [share, hplace]
  exact List.lookup_cons_self

/-- Links that are written are those of all representations with the list. -/
theorem read_write (hk : k ∈ s.kept) (k' : Kept) (links : List Link) :
    (s.write k links).read k' =
      if k'.list = k.list then { s.read k' with links := links } else s.read k' := by
  split
  · rename_i h
    simp [read, write, h, s.list_lt k hk]
  · rename_i h
    simp only [read, write, List.getElem?_set_ne (Ne.symm h)]

/-- A call puts no representation out of the store. -/
theorem mem_kept_call (hk : k ∈ s.kept) (c : Call) : k ∈ (s.call c).kept := by
  unfold call
  split
  · exact hk
  · split
    · exact hk
    · split
      · exact List.mem_append_left _ hk
      · unfold share
        split <;> exact hk
      · exact hk

/-- A call makes its change to the representations with its list, and leaves the others as they
are. -/
theorem read_call (hk : k ∈ s.kept) (c : Call) :
    (s.call c).read k =
      if (s.get? c.name).map Kept.list = some k.list ∧ c.change.fallback? = none then
        (s.read k).changed c.change
      else s.read k := by
  unfold call
  cases hget : s.get? c.name with
  | none => simp
  | some on =>
    cases hfallback : c.change.fallback? with
    | none =>
      simp only [read_write (mem_kept_of_get? hget), Option.map_some, Option.some.injEq, and_true,
        eq_comm (a := k.list)]
      split
      · rename_i hlist
        obtain ⟨relink, hrelink⟩ := Representation.exists_changed_eq hfallback
        have hlinks : (s.read on).links = (s.read k).links := by simp only [read, hlist]
        rw [hrelink, hrelink, hlinks]
      · rfl
    | some elementType =>
      simp only [reduceCtorEq, and_false, if_false]
      split
      · exact read_put hk _ _
      · exact read_share s _ _ k
      · rfl

/-- Whatever calls follow, a representation has just the changes that are made to its list. -/
theorem read_callAll (hk : k ∈ s.kept) (cs : List Call) :
    (s.callAll cs).read k = (s.read k).changedAll (s.changesTo k.list cs) := by
  induction cs generalizing s with
  | nil => rfl
  | cons c cs ih =>
    have hrest := ih (mem_kept_call hk c)
    rw [read_call hk c] at hrest
    rw [callAll, List.foldl_cons, ← callAll, hrest, changesTo]
    split <;> rfl

/-- Another name for the representation that a name stands for may be this name. -/
theorem get?_share (h : s.get? name = some k) (target : Text) :
    (s.share target name).get? target = some k := by
  obtain ⟨place, hplace, hk⟩ := Option.bind_eq_some_iff.mp h
  have hshare := place?_share (Option.isSome_of_eq_some hplace) target
  rw [get?, hshare, hplace, Option.bind_some, share, hplace]
  exact hk

/-- A type that is offered gives the representation itself if it has one, and else a new one with
its own list. -/
theorem exists_call_withFallbackType {items : List Value} (hget : s.get? name = some k)
    (hitems : (s.read k).payload.items? = some items) (elementType : ElementType)
    (target : Text) :
    let s' := s.call ⟨name, .withFallbackType elementType, target⟩
    ∃ k', s'.get? target = some k' ∧
      s'.read k' = (s.read k).changed (.withFallbackType elementType) ∧ s'.read k = s.read k ∧
      ((s.read k).payload.elementType?.isSome = true → s'.place? target = s.place? name) ∧
      ((s.read k).payload.elementType? = none → k'.list ≠ k.list) := by
  have hk := mem_kept_of_get? hget
  have hoffer := Representation.withFallbackType?_eq hitems elementType
  simp only [call, hget, Change.fallback?, Representation.changed, Representation.change, hoffer]
  cases htype : (s.read k).payload.elementType? with
  | none =>
    refine ⟨_, get?_put_self .., read_put_self .., read_put hk .., ?_, fun _ => ?_⟩
    · rintro ⟨⟩
    · exact (s.list_lt k hk).ne'
  | some known =>
    obtain ⟨place, hplace, -⟩ := Option.bind_eq_some_iff.mp hget
    refine ⟨k, get?_share hget target, read_share .., read_share .., fun _ => ?_, ?_⟩
    · exact place?_share (Option.isSome_of_eq_some hplace) target
    · rintro ⟨⟩

/-- A call whose result takes the name over has its change made to what the name stands for. -/
theorem read?_call_self (h : s.read? name = some m) (c : Change) :
    (s.call ⟨name, c, name⟩).read? name = some (m.changed c) := by
  obtain ⟨k, hget, rfl⟩ := Option.map_eq_some_iff.mp h
  cases hfallback : c.fallback? with
  | none =>
    have hread := read_call (mem_kept_of_get? hget) ⟨name, c, name⟩
    rw [if_pos ⟨by rw [hget]; rfl, hfallback⟩] at hread
    have hname : (s.call ⟨name, c, name⟩).get? name = some k := by
      simp only [call, hget, hfallback]
      exact hget
    rw [read?, hname, ← hread]
    rfl
  | some elementType =>
    cases c with
    | withFallbackType elementType =>
      simp only [call, hget, Change.fallback?, Representation.changed, Representation.change]
      cases (s.read k).withFallbackType? elementType with
      | error fault => exact h
      | ok given =>
        cases given with
        | none =>
          rw [read?, get?_share hget, Option.map_some, read_share]
          rfl
        | some typed =>
          rw [read?, get?_put_self, Option.map_some, read_put_self]
          rfl
    | _ => cases hfallback

/-- Calls whose results take the name over have their changes made one after another. -/
theorem read?_goOn (h : s.read? name = some m) (cs : List Change) :
    (s.goOn name cs).read? name = some (m.changedAll cs) := by
  induction cs generalizing s m with
  | nil => exact h
  | cons c cs ih => exact ih (read?_call_self h c)

/-- No two representations have the same list. -/
def IsSeparate (s : Store) : Prop := (s.kept.map Kept.list).Nodup

/-- The workspace of the representations as they are at the moment. -/
def view (s : Store) : Workspace := ⟨s.kept.map s.read, s.names⟩

/-- Names stand for the same in the workspace. -/
theorem get?_view (s : Store) (name : Text) : s.view.get? name = s.read? name := by
  unfold read? get? Workspace.get?
  rw [Option.map_bind]
  refine congrArg _ (funext fun place => ?_)
  exact List.getElem?_map ..

/-- Putting a representation into the store puts it into the workspace. -/
theorem view_put (s : Store) (name : Text) (m : Representation) :
    (s.put name m).view = s.view.put name m := by
  have hold : s.kept.map (s.put name m).read = s.kept.map s.read :=
    List.map_congr_left fun k hk => read_put hk name m
  have hkept : (s.put name m).kept.map (s.put name m).read = s.kept.map s.read ++ [m] := by
    rw [show (s.put name m).kept = s.kept ++ [⟨m.payload, m.label, s.lists.length⟩] from rfl,
      List.map_append, hold, List.map_singleton, read_put_self]
  rw [view, hkept, view, Workspace.put, List.length_map]
  rfl

/-- Another name in the store is one in the workspace. -/
theorem view_share (s : Store) (name other : Text) :
    (s.share name other).view = s.view.share name other := by
  unfold share Workspace.share
  rw [show s.view.place? other = s.place? other from rfl]
  cases s.place? other <;> rfl

/-- If no list is shared, representations at different places have different lists. -/
theorem IsSeparate.list_ne (hs : s.IsSeparate) {i j : Nat} (hk : s.kept[i]? = some k)
    (hk' : s.kept[j]? = some k') (hne : i ≠ j) : k.list ≠ k'.list := by
  intro hlist
  obtain ⟨hlt, -⟩ := List.getElem?_eq_some_iff.mp hk
  refine hne ((List.getElem?_inj (by rwa [List.length_map]) hs).mp ?_)
  rw [List.getElem?_map, List.getElem?_map, hk, hk', Option.map_some, Option.map_some, hlist]

/-- If no list is shared, writing to the list of a representation changes it alone. -/
theorem IsSeparate.view_write (hs : s.IsSeparate) (hget : s.get? name = some k)
    (links : List Link) :
    (s.write k links).view = s.view.update name { s.read k with links } := by
  obtain ⟨place, hplace, hk⟩ := Option.bind_eq_some_iff.mp hget
  have hkept : s.kept.map (s.write k links).read =
      (s.kept.map s.read).set place { s.read k with links } := by
    refine List.ext_getElem? fun i => ?_
    rw [List.getElem?_map, List.getElem?_set, List.getElem?_map, List.length_map]
    obtain ⟨hlt, -⟩ := List.getElem?_eq_some_iff.mp hk
    split
    · rename_i hi
      subst hi
      rw [hk, Option.map_some, read_write (mem_kept_of_get? hget), if_pos rfl]
    · rename_i hi
      cases hother : s.kept[i]? with
      | none => rfl
      | some other =>
        have hlist := hs.list_ne hother hk (Ne.symm hi)
        rw [Option.map_some, read_write (mem_kept_of_get? hget), if_neg hlist]
        rfl
  rw [Workspace.update, show s.view.place? name = s.place? name from rfl, hplace, view]
  exact congrArg (Workspace.mk · s.names) hkept

/-- Nothing is shared in a store of nothing. -/
theorem isSeparate_empty : empty.IsSeparate := List.nodup_nil

/-- A new representation shares its list with none. -/
theorem IsSeparate.put (hs : s.IsSeparate) (name : Text) (m : Representation) :
    (s.put name m).IsSeparate := by
  have hnew : s.lists.length ∉ s.kept.map Kept.list := by
    rintro h
    obtain ⟨k, hk, hlist⟩ := List.mem_map.mp h
    exact (s.list_lt k hk).ne hlist
  unfold IsSeparate Store.put
  rw [List.map_append]
  refine List.nodup_append.mpr ⟨hs, List.pairwise_singleton _ _, ?_⟩
  rintro list hlist _ hmem rfl
  rw [List.mem_singleton.mp hmem] at hlist
  exact hnew hlist

/-- Another name brings no list. -/
theorem IsSeparate.share (hs : s.IsSeparate) (name other : Text) :
    (s.share name other).IsSeparate := by
  unfold Store.share
  split <;> exact hs

/-- If no list is shared, a call does what it does in the workspace, and no list is shared after
it. -/
theorem IsSeparate.view_call (hs : s.IsSeparate) (c : Call) :
    (s.call c).IsSeparate ∧ (s.call c).view = s.view.call c := by
  unfold call Workspace.call
  rw [get?_view, read?]
  cases hget : s.get? c.name with
  | none => exact ⟨hs, rfl⟩
  | some k =>
    simp only [Option.map_some]
    cases hfallback : c.change.fallback? with
    | none =>
      obtain ⟨relink, hrelink⟩ := Representation.exists_changed_eq hfallback
      refine ⟨hs, ?_⟩
      rw [hrelink, hs.view_write hget]
    | some elementType =>
      simp only [Workspace.withFallbackType]
      cases (s.read k).withFallbackType? elementType with
      | error fault => exact ⟨hs, rfl⟩
      | ok given =>
        cases given with
        | none => exact ⟨hs.share .., view_share ..⟩
        | some typed => exact ⟨hs.put .., view_put ..⟩

/-- If no list is shared, calls do what they do in the workspace. -/
theorem IsSeparate.view_callAll (hs : s.IsSeparate) (cs : List Call) :
    (s.callAll cs).IsSeparate ∧ (s.callAll cs).view = s.view.callAll cs := by
  induction cs generalizing s with
  | nil => exact ⟨hs, rfl⟩
  | cons c cs ih =>
    obtain ⟨hcall, hview⟩ := hs.view_call c
    rw [Workspace.callAll, List.foldl_cons, ← hview]
    exact ih hcall

end Store

namespace Representation

/-- The type of elements is set once, by the first element or offer, and what is given shares
nothing with the original. -/
theorem IsBuilt.elementType?_set_once {m : Representation} (hm : m.IsBuilt)
    {items : List Value} (hitems : m.payload.items? = some items) {s : Store} {name : Text}
    (hread : s.read? name = some m) (cs : List Change) :
    let last := m.changedAll cs
    let after := s.goOn name cs
    (items ≠ [] → m.payload.elementType?.isSome = true) ∧
      last.payload.elementType? = m.payload.elementType?.or (cs.findSome? Change.fallback?) ∧
      ∃ k, after.get? name = some k ∧ after.read k = last ∧
        ∀ (elementType : ElementType) (target : Text),
          let typed := last.changed (.withFallbackType elementType)
          let offered := after.call ⟨name, .withFallbackType elementType, target⟩
          typed.links = last.links ∧ SameData last typed ∧
            ∃ k', offered.get? target = some k' ∧ offered.read k' = typed ∧
              offered.read k = last ∧
              (last.payload.elementType?.isSome = true →
                offered.place? target = after.place? name) ∧
              (last.payload.elementType? = none → k'.list ≠ k.list ∧ ∀ later : List Call,
                (offered.callAll later).read k =
                    last.changedAll (offered.changesTo k.list later) ∧
                  (offered.callAll later).read k' =
                    typed.changedAll (offered.changesTo k'.list later)) := by
  intro last after
  have hsame : SameData m last :=
    changedAll_induction (fun m' c h => h.trans (sameData_changed m' c)) (SameData.refl m) cs
  have hlast : last.payload.items? = some items := hsame.items?_eq.trans hitems
  obtain ⟨k, hget, hk⟩ := Option.map_eq_some_iff.mp (Store.read?_goOn hread cs)
  refine ⟨hm.isTyped items hitems, elementType?_changedAll hitems cs, k, hget, hk, ?_⟩
  intro elementType target typed offered
  have htyped : typed.links = last.links := by
    rw [show typed = last.changed (.withFallbackType elementType) from rfl,
      changed_withFallbackType hlast]
  obtain ⟨k', hget', hread', hrest, hknown, hunknown⟩ :=
    Store.exists_call_withFallbackType hget (by rw [hk]; exact hlast) elementType target
  rw [hk] at hread' hrest hknown hunknown
  refine ⟨htyped, sameData_changed last _, k', hget', hread', hrest, hknown, ?_⟩
  intro hnone
  refine ⟨hunknown hnone, fun later => ⟨?_, ?_⟩⟩
  · rw [Store.read_callAll (Store.mem_kept_call (Store.mem_kept_of_get? hget) _), hrest]
  · rw [Store.read_callAll (Store.mem_kept_of_get? hget'), hread']

/-- An empty collection that is offered a type twice, while links are added and removed under three
names. -/
theorem elementType?_set_once_collection :
    ∃ (l p q : Link) (m : Representation) (s : Store) (cs : List Change) (order : ElementType)
      (later : List Call) (k k' : Kept),
      collection (.list []) [[l]] .absent = .ok m ∧ m.payload.items? = some [] ∧
      s.read? ['a'] = some m ∧
      cs = [.add [p], .removeLinks (some (.raw (.text " ".toList)))] ∧
      later = [⟨['b'], .add [q], ['b']⟩, ⟨['a'], .removeLinks none, ['a']⟩,
        ⟨['b'], .withFallbackType ⟨"Item".toList⟩, ['c']⟩,
        ⟨['c'], .removeLinks (some (.made l.rel)), ['c']⟩] ∧
      let last := m.changedAll cs
      let after := s.goOn ['a'] cs
      let typed := last.changed (.withFallbackType order)
      let offered := after.call ⟨['a'], .withFallbackType order, ['b']⟩
      last.payload.elementType? = none ∧ last.links = [l, p] ∧
      after.get? ['a'] = some k ∧ after.read k = last ∧
      offered.get? ['b'] = some k' ∧ offered.read k' = typed ∧ k'.list ≠ k.list ∧
      ((offered.callAll later).read k).links = [] ∧
      ((offered.callAll later).read k').links = [p, q] ∧
      ((offered.callAll later).read k').payload.elementType? = some order := by
  let l : Link := { href := "/a".toList, rel := Relation.self }
  let p : Link := { href := "/b".toList, rel := Relation.next }
  let q : Link := { href := "/c".toList, rel := Relation.last }
  let m : Representation := assemble (.collection [] none) [[l]]
  let s : Store := Store.empty.put ['a'] m
  let cs : List Change := [.add [p], .removeLinks (some (.raw (.text " ".toList)))]
  let order : ElementType := ⟨"Order".toList⟩
  let later : List Call := [⟨['b'], .add [q], ['b']⟩, ⟨['a'], .removeLinks none, ['a']⟩,
    ⟨['b'], .withFallbackType ⟨"Item".toList⟩, ['c']⟩,
    ⟨['c'], .removeLinks (some (.made l.rel)), ['c']⟩]
  have hbuilt : collection (.list []) [[l]] .absent = .ok m := rfl
  have hread : s.read? ['a'] = some m := rfl
  obtain ⟨-, htype, k, hget, hk, hoffer⟩ :=
    IsBuilt.elementType?_set_once (.collection hbuilt) rfl hread cs
  obtain ⟨-, -, k', hget', hk', -, -, hnone⟩ := hoffer order ['b']
  obtain ⟨hlist, hlater⟩ := hnone htype
  obtain ⟨hleft, hright⟩ := hlater later
  have hfirst : k.list = 0 := by
    have h : ((s.goOn ['a'] cs).get? ['a']).map Kept.list = some 0 := by decide +kernel
    rw [hget] at h
    exact Option.some.inj h
  have hsecond : k'.list = 1 := by
    have h : (((s.goOn ['a'] cs).call ⟨['a'], .withFallbackType order, ['b']⟩).get? ['b']).map
        Kept.list = some 1 := by decide +kernel
    rw [hget'] at h
    exact Option.some.inj h
  refine ⟨l, p, q, m, s, cs, order, later, k, k', hbuilt, rfl, hread, rfl, rfl, htype,
    by decide +kernel, hget, hk, hget', hk', hlist, ?_, ?_, ?_⟩
  · rw [hleft, hfirst]
    decide +kernel
  · rw [hright, hsecond]
    decide +kernel
  · rw [hright, hsecond]
    decide +kernel

end Representation

end WebLinking
