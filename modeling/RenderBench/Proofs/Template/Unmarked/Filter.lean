import RenderBench.Proofs.Template.Relabel.AllFilters
import RenderBench.Proofs.Template.Unmarked.Value

/-!
# `Proofs.Template.Unmarked.Filter` — filters of values without markup

Only three filters make markup of values without markup. All others make values without markup of them, and the two that
look at whether output is escaped do so for the sake of markup only.

## Contents
- `yields_sortKeyed`, `yields_sortBy`, `yields_bestBy`: sorted values are among the values.
- `makesMarkup`: the filters that make markup, and what the others make: `yields_boundFilter`, `yields_applyFilter`.
- `applyFilter_flag`: a filter does the same whether or not output is escaped.
-/

namespace RenderBench.Template

variable {v w : Value} {vs : List Value}

/-! ## Sorting -/

section Sorting

variable {P : Keyed → Prop}

/-- Sorting moves elements: what holds of all that come in holds of all that come out. -/
theorem yields_spanRun (descending : Bool) (xs : List Keyed) : ∀ last : Keyed, (∀ x ∈ xs, P x) →
    Yields (spanRun descending last xs) fun p => (∀ x ∈ p.1, P x) ∧ ∀ x ∈ p.2, P x := by
  induction xs with
  | nil => exact fun _ _ => yields_ok ⟨List.forall_mem_nil _, List.forall_mem_nil _⟩
  | cons x xs ih =>
    intro last h
    have hx := h x List.mem_cons_self
    refine yields_bind fun below => yields_ite ?_ (yields_ok ⟨List.forall_mem_nil _, h⟩)
    refine (ih x fun y hy => h y (List.mem_cons_of_mem x hy)).bind fun p hp => yields_ok ⟨fun y hy => ?_, hp.2⟩
    rcases List.mem_cons.mp hy with rfl | hy
    · exact hx
    · exact hp.1 y hy

/-- The run in front and what is left have the same elements. -/
theorem yields_frontRun {xs : List Keyed} (h : ∀ x ∈ xs, P x) :
    Yields (frontRun xs) fun p => (∀ x ∈ p.1, P x) ∧ ∀ x ∈ p.2, P x := by
  match xs, h with
  | [], _ => exact yields_ok ⟨List.forall_mem_nil _, List.forall_mem_nil _⟩
  | [x], h => exact yields_ok ⟨h, List.forall_mem_nil _⟩
  | x :: y :: rest, h =>
    have hx := h x List.mem_cons_self
    have hy := h y (List.mem_cons_of_mem x List.mem_cons_self)
    have hrest : ∀ z ∈ rest, P z := fun z hz => h z (List.mem_cons_of_mem x (List.mem_cons_of_mem y hz))
    refine yields_bind fun descending => ?_
    refine (yields_spanRun descending rest y hrest).bind fun p hp => yields_ok ⟨?_, hp.2⟩
    have hrun : ∀ z ∈ x :: y :: p.1, P z := by
      intro z hz
      rcases List.mem_cons.mp hz with rfl | hz
      · exact hx
      · rcases List.mem_cons.mp hz with rfl | hz
        · exact hy
        · exact hp.1 z hz
    split
    · exact fun z hz => hrun z (List.mem_reverse.mp hz)
    · exact hrun

/-- An element that is put in its place. -/
theorem yields_insertSorted {sorted : List Keyed} {x : Keyed} (h : ∀ y ∈ sorted, P y) (hx : P x) :
    Yields (insertSorted sorted x) fun ys => ∀ y ∈ ys, P y := by
  refine yields_bind fun place => yields_ok fun y hy => ?_
  rcases List.mem_append.mp hy with hy | hy
  · exact h y (List.mem_of_mem_take hy)
  · rcases List.mem_cons.mp hy with rfl | hy
    · exact hx
    · exact h y (List.mem_of_mem_drop hy)

/-- All elements with their keys, sorted. -/
theorem yields_sortKeyed {xs : List Keyed} (h : ∀ x ∈ xs, P x) : Yields (sortKeyed xs) fun ys => ∀ y ∈ ys, P y := by
  refine (yields_frontRun h).bind fun p hp => ?_
  exact yields_foldlM (fun x hx sorted hsorted => yields_insertSorted hsorted (hp.2 x hx)) p.1 hp.1

theorem yields_bestBy (op : OrderOp) (xs : List Keyed) : ∀ first : Keyed, P first → (∀ x ∈ xs, P x) →
    Yields (bestBy op first xs) P := by
  induction xs with
  | nil => exact fun _ hfirst _ => yields_ok hfirst
  | cons x xs ih =>
    intro first hfirst h
    have hxs : ∀ y ∈ xs, P y := fun y hy => h y (List.mem_cons_of_mem x hy)
    exact yields_bind fun before => yields_ite (ih x (h x List.mem_cons_self) hxs) (ih first hfirst hxs)

end Sorting

theorem yields_withKey {key : Value → Eval Value} (h : v.Unmarked) :
    Yields (withKey key v) fun x => x.2.Unmarked :=
  yields_bind fun _ => yields_ok h

/-- A row without markup, sorted. -/
theorem yields_sortBy (key : Value → Eval Value) (descending : Bool) (h : AllUnmarked vs) :
    Yields (sortBy key descending vs) AllUnmarked := by
  have hvalues {xs : List Keyed} (hxs : ∀ x ∈ xs, x.2.Unmarked) : AllUnmarked (xs.map Prod.snd) := by
    intro w hw
    obtain ⟨x, hx, rfl⟩ := List.mem_map.mp hw
    exact hxs x hx
  refine (yields_mapM fun w hw => yields_withKey (h w hw)).bind fun keyed hkeyed => ?_
  refine yields_ite ?_ ?_
  · refine (yields_sortKeyed fun x hx => hkeyed x (List.mem_reverse.mp hx)).bind fun sorted hsorted => ?_
    exact yields_ok (hvalues fun x hx => hsorted x (List.mem_reverse.mp hx))
  · exact (yields_sortKeyed hkeyed).bind fun sorted hsorted => yields_ok (hvalues hsorted)

/-! ## The parts of filters -/

/-- A filter on texts makes a text. -/
theorem unmarked_onText (f : String → String) (h : v.Unmarked) : (onText f v).Unmarked := by
  rw [onText, h.isMarkup]
  exact .text _

theorem yields_absValue (v : Value) : Yields (absValue v) Value.Unmarked := by
  unfold absValue
  split
  · exact yields_ok (.int _)
  · exact yields_ok (.real _)
  · exact yields_error _

/-- A number, or a default that is no markup. -/
theorem yields_asReal (v : Value) (hw : w.Unmarked) : Yields (asReal v w) Value.Unmarked := by
  unfold asReal
  split
  · exact yields_error _
  · split
    · exact yields_bind fun _ => yields_ok (.real _)
    · cases realOfText? _ with
      | none => exact yields_ok hw
      | some x => exact yields_ok (.real x)
    · exact yields_ok hw

theorem yields_asWhole (v : Value) (hw : w.Unmarked) (base : Int) : Yields (asWhole v w base) Value.Unmarked := by
  unfold asWhole
  split
  · exact yields_error _
  · split
    · exact yields_ok (.int _)
    · split
      · exact yields_ok (.int _)
      · exact yields_ite (yields_ok hw) (yields_error _)
    · split
      · exact yields_ok (.int _)
      · cases (realOfText? _).bind Binary64.trunc? with
        | none => exact yields_ok hw
        | some i => exact yields_ok (.int i)
    · exact yields_ok hw

/-- Rounding makes numbers. -/
theorem yields_roundCommon (v precision : Value) : Yields (roundCommon v precision) Value.Unmarked := by
  unfold roundCommon
  split
  · exact yields_error _
  · split
    · exact yields_ok (.int _)
    · unfold roundToWhole
      split
      · exact yields_ok (.int _)
      · exact yields_error _
    · exact yields_error _
  · exact yields_ok (.int _)
  · exact yields_ok (.real _)

theorem yields_roundTowards (up : Bool) (v : Value) (hw : w.Unmarked) :
    Yields (roundTowards up v w) Value.Unmarked := by
  have hcut (whole : Int) {unit : Value} (hunit : unit.Unmarked) : Yields (binaryValue .div (.int whole) unit)
      Value.Unmarked := yields_binaryValue .div (.int whole) hunit
  refine (yields_binaryValue .pow (.int 10) hw).bind fun unit hunit => yields_bind fun scaled => ?_
  split
  · exact hcut _ hunit
  · split
    · exact hcut _ hunit
    · exact yields_error _
  · exact yields_error _

theorem yields_roundValue (v method : Value) (hw : w.Unmarked) : Yields (roundValue v w method) Value.Unmarked := by
  unfold roundValue
  split
  · exact yields_roundCommon v w
  · exact yields_roundTowards false v hw
  · exact yields_roundTowards true v hw
  · exact yields_error _

/-- An element of the value, or something absent. -/
theorem yields_firstOf (h : v.Unmarked) : Yields (firstOf v) Value.Unmarked := by
  refine (yields_elementsOf h).bind fun e he => ?_
  obtain ⟨vs, failure⟩ := e
  cases vs with
  | cons w ws => exact yields_ok (he w List.mem_cons_self)
  | nil =>
    cases failure with
    | none => exact yields_ok (.absent _)
    | some f => exact yields_error f

theorem yields_lastOf (h : v.Unmarked) : Yields (lastOf v) Value.Unmarked := by
  refine yields_ite ((yields_listOf h).bind fun vs hvs => yields_ok ?_) (yields_error _)
  exact unmarked_getD (fun w hw => hvs w (List.mem_of_getLast? hw)) (.absent _)

/-- A text or a row, from its end. -/
theorem yields_reverseValue (h : v.Unmarked) : Yields (reverseValue v) Value.Unmarked := by
  have hreversed : Yields (do return .lazy (reverseKind v) (← listOf v).reverse none : Eval Value) Value.Unmarked :=
    (yields_listOf h).bind fun vs hvs => yields_ok (.lazy _ _ fun w hw => hvs w (List.mem_reverse.mp hw))
  have hforward : Yields (fromEnd (elementsOf v)) Value.Unmarked := by
    have helements := yields_elementsOf h
    cases he : elementsOf v with
    | error f => exact yields_error _
    | ok e =>
      refine Yields.bind (P := AllUnmarked) ?_ fun vs hvs =>
        yields_ok (.list fun w hw => hvs w (List.mem_reverse.mp hw))
      have hvalues := helements e he
      unfold Elements.all
      cases e.failure with
      | none => exact yields_ok hvalues
      | some f => exact yields_error f
  cases h with
  | text s => exact yields_ok (.text _)
  | absent a => exact hreversed
  | list h => exact hreversed
  | tuple h => exact hreversed
  | dict hk hv => exact hreversed
  | range a b c => exact hreversed
  -- everything else is listed first, and may fail at it
  | _ => exact hforward

/-- Without markup among them, values are joined to the same text whether or not output is escaped. -/
theorem joinValuesWith_of_unmarked (hv : v.Unmarked) (hvs : AllUnmarked vs) (escape : Bool) :
    joinValuesWith escape v vs = .text (String.intercalate v.display (vs.map Value.display)) := by
  rw [joinValuesWith, hv.isMarkup, any_isMarkup hvs]
  cases escape <;> rfl

theorem yields_follow (path : List Value) (hv : v.Unmarked) : Yields (followPath none path v) Value.Unmarked := by
  have hnone : ∀ w, (none : Option Value) = some w → w.Unmarked := nofun
  exact yields_followPath hnone path hv

/-- Members of values without markup. -/
theorem yields_reached (path : Value) (hvs : AllUnmarked vs) : Yields (reached path vs) AllUnmarked := by
  unfold reached
  split
  · exact yields_ok hvs
  · exact yields_mapM fun w hw => yields_follow _ (hvs w hw)

theorem yields_settled (failure : Option Fault) (hv : v.Unmarked) : Yields (settled failure v) Value.Unmarked := by
  cases failure with
  | none => exact yields_ok hv
  | some f => exact yields_error f

/-- A step and then another one that only agrees with a third one on what the first one may end with. -/
theorem Yields.bind_congr {α β : Type} {P : α → Prop} {x : Eval α} {f f' : α → Eval β} (hx : Yields x P)
    (hf : ∀ a, P a → f a = f' a) : (x >>= f) = (x >>= f') := by
  cases x with
  | ok a => exact hf a (hx a rfl)
  | error e => rfl

/-- Joining does not look at whether output is escaped. -/
theorem joinFilter_flag (hv : v.Unmarked) (hw : w.Unmarked) (path : Value) (escape : Bool) :
    joinFilter escape v w path = joinFilter false v w path := by
  rw [joinFilter_eq, joinFilter_eq]
  refine (yields_elementsOf hv).bind_congr fun e he => ?_
  refine (yields_reached path he).bind_congr fun vs hvs => ?_
  rw [joinValuesWith_of_unmarked hw hvs, joinValuesWith_of_unmarked hw hvs]

/-- It makes a text where output is not escaped. -/
theorem yields_joinFilter (v w path : Value) : Yields (joinFilter false v w path) Value.Unmarked := by
  rw [joinFilter_eq]
  exact yields_bind fun e => yields_bind fun vs => yields_settled _ (.text _)

/-- The sum of values without markup. -/
theorem yields_sumValues (hv : v.Unmarked) (hw : w.Unmarked) (path : Value) :
    Yields (sumValues v path w) Value.Unmarked := by
  rw [sumValues_eq]
  refine (yields_elementsOf hv).bind fun e he => yields_ite (yields_error _) ?_
  refine (yields_reached path he).bind fun vs hvs => ?_
  have htotal := yields_foldlM (fun x hx total ht => yields_binaryValue .add ht (hvs x hx)) w hw
  exact htotal.bind fun total ht => yields_settled _ ht

/-- Replacing does not look at whether output is escaped. -/
theorem replaceValue_flag (hv : v.Unmarked) {old new : Value} (hold : old.Unmarked) (hnew : new.Unmarked)
    (count : Value) (escape : Bool) : replaceValue escape v old new count = replaceValue false v old new count := by
  refine congrArg (replaceCount count >>= ·) (funext fun n => ?_)
  cases escape with
  | false => rfl
  | true =>
    rw [hold.isMarkup, hnew.isMarkup, hv.soft]
    rfl

theorem yields_replaceValue (v old new count : Value) : Yields (replaceValue false v old new count) Value.Unmarked :=
  yields_bind fun _ => yields_ok (.text _)

/-- The entries of a mapping as pairs. -/
theorem yields_sortEntries (hv : v.Unmarked) (caseSensitive reverse : Value) (position : Int) :
    Yields (sortEntries v caseSensitive reverse position) Value.Unmarked := by
  cases hv with
  | dict hkeys hvalues =>
    refine (yields_sortBy _ _ fun w hw => ?_).map fun vs hvs => .list hvs
    obtain ⟨e, he, rfl⟩ := List.mem_map.mp hw
    refine .tuple fun x hx => ?_
    rcases List.mem_cons.mp hx with rfl | hx
    · exact hkeys e he
    · rw [List.mem_singleton.mp hx]
      exact hvalues e he
  | _ => exact yields_error _

theorem yields_dictSort (hv : v.Unmarked) (caseSensitive part reverse : Value) :
    Yields (dictSort v caseSensitive part reverse) Value.Unmarked := by
  rw [dictSort_eq]
  exact yields_ite (yields_sortEntries hv _ _ _) (yields_ite (yields_sortEntries hv _ _ _) (yields_error _))

/-- One of the elements, or something absent. -/
theorem yields_bestValue (op : OrderOp) (hv : v.Unmarked) (caseSensitive path : Value) :
    Yields (bestValue op v caseSensitive path) Value.Unmarked := by
  refine (yields_elementsOf hv).bind fun e he => ?_
  obtain ⟨vs, failure⟩ := e
  cases vs with
  | nil =>
    cases failure with
    | none => exact yields_ok (.absent _)
    | some f => exact yields_error f
  | cons w ws =>
    have hkeyed := yields_mapM (f := withKey (keyOf (attributePath path) caseSensitive.isTruthy))
      fun w hw => yields_withKey (he w hw)
    refine hkeyed.bind fun keyed hk => ?_
    cases keyed with
    | nil => exact yields_ok (.absent _)
    | cons first rest =>
      refine (yields_bestBy op rest first (hk first List.mem_cons_self)
        fun x hx => hk x (List.mem_cons_of_mem first hx)).bind fun best hbest => ?_
      cases failure with
      | none => exact yields_ok hbest
      | some f => exact yields_error f

/-! ## Filters that apply others -/

/-- A sequence that is computed when it is asked for, of elements without markup. -/
theorem unmarked_lazily {f : Value → Eval (Option Value)} (hv : v.Unmarked)
    (hf : ∀ w, w.Unmarked → Yields (f w) fun o => ∀ x, o = some x → x.Unmarked) : (lazily v f).Unmarked := by
  -- the elements up to the first that fails
  have hgo (failure : Option Fault) (ws : List Value) (hws : AllUnmarked ws) :
      AllUnmarked (lazily.go f failure ws).1 := by
    induction ws with
    | nil => exact List.forall_mem_nil _
    | cons w ws ih =>
      have hrest := ih fun x hx => hws x (List.mem_cons_of_mem w hx)
      have hfirst := hf w (hws w List.mem_cons_self)
      rw [lazily.go]
      cases hw : f w with
      | error e => exact List.forall_mem_nil _
      | ok o =>
        cases o with
        | none => exact hrest
        | some x =>
          intro y hy
          rcases List.mem_cons.mp hy with rfl | hy
          · exact hfirst _ hw y rfl
          · exact hrest y hy
  rw [lazily]
  split
  · exact .lazy _ _ (List.forall_mem_nil _)
  · have helements := yields_elementsOf hv
    cases he : elementsOf v with
    | error e => exact .lazy _ _ (List.forall_mem_nil _)
    | ok e => exact .lazy _ _ (hgo e.failure e.values (helements e he))

theorem unmarked_failsLazily (v : Value) (f : Fault) : (failsLazily v f).Unmarked :=
  .lazy _ _ (List.forall_mem_nil _)

/-- Elements mapped to members of theirs. -/
theorem unmarked_mapMembers (apply : FilterFunction) (hv : v.Unmarked) {named : List (String × Value)}
    (hnamed : NamedUnmarked named) : (mapValue apply v [] named).Unmarked := by
  have hdefault : ∀ w, defaultOf (named.lookup "default") = some w → w.Unmarked := by
    intro w hw
    cases hlookup : named.lookup "default" with
    | none =>
      rw [hlookup] at hw
      cases hw
    | some x =>
      rw [hlookup] at hw
      have hx := unmarked_of_lookup hnamed hlookup
      cases x <;> cases hw <;> exact hx
  rw [mapValue_nil]
  cases named.lookup "attribute" with
  | none => exact unmarked_failsLazily v _
  | some a =>
    cases named.find? fun p => p.1 != "attribute" && p.1 != "default" with
    | some p => exact unmarked_failsLazily v _
    | none =>
      -- the member of an element or the default
      refine unmarked_lazily hv fun w hw => ?_
      refine (yields_followPath hdefault (attributePath a) hw).map fun x hx => ?_
      rintro y ⟨⟩
      exact hx

/-- An element that is selected is one that was there. -/
theorem yields_selected (keep : Bool) (named : List (String × Value)) (path testArgs : List Value)
    (hw : w.Unmarked) : Yields (selected keep named path testArgs w) fun o => ∀ x, o = some x → x.Unmarked := by
  have hanswer (answer : Bool) : Yields (.ok (if answer == keep then some w else none) : Eval (Option Value))
      fun o => ∀ x, o = some x → x.Unmarked := by
    refine yields_ok fun x hx => ?_
    split at hx
    · cases hx
      exact hw
    · cases hx
  refine yields_bind fun x => ?_
  cases testArgs with
  | nil => exact hanswer _
  | cons name rest => exact yields_bind fun answer => hanswer answer

/-- Elements of which a test holds. -/
theorem unmarked_selectValue (byAttribute keep : Bool) (hv : v.Unmarked) (args : List Value)
    (named : List (String × Value)) : (selectValue byAttribute keep v args named).Unmarked := by
  have hselect (path testArgs : List Value) :=
    unmarked_lazily hv fun w hw => yields_selected keep named path testArgs hw
  cases byAttribute with
  | false => exact hselect [] args
  | true =>
    cases args with
    | nil => exact unmarked_failsLazily v _
    | cons attr rest => exact hselect (attributePath attr) rest

/-! ## All filters -/

/-- Arguments without markup, as far as they are there. -/
abbrev ArgumentsUnmarked (b : List (Option Value)) : Prop := ∀ o ∈ b, ∀ w, o = some w → w.Unmarked

/-- An argument, or the default of its parameter. -/
theorem unmarked_argumentOr {b : List (Option Value)} (hb : ArgumentsUnmarked b) (k : Nat) (hv : v.Unmarked) :
    (argumentOr b k v).Unmarked := by
  refine unmarked_getD (fun w hw => ?_) hv
  cases hk : b[k]? with
  | none =>
    rw [hk] at hw
    cases hw
  | some o =>
    rw [hk] at hw
    exact hb o (List.mem_of_getElem? hk) w hw

/-- The arguments of a filter, bound to its parameters. -/
theorem yields_bindArguments (s : FilterSignature) {args : List Value} (hargs : AllUnmarked args)
    {named : List (String × Value)} (hnamed : NamedUnmarked named) :
    Yields (bindArguments s args named) ArgumentsUnmarked := by
  have hbound (params : List String) : ArgumentsUnmarked (args.map some ++ params.map fun p => named.lookup p) := by
    intro o ho w hw
    rcases List.mem_append.mp ho with ho | ho
    · obtain ⟨x, hx, rfl⟩ := List.mem_map.mp ho
      cases hw
      exact hargs _ hx
    · obtain ⟨p, -, rfl⟩ := List.mem_map.mp ho
      exact unmarked_of_lookup hnamed hw
  unfold bindArguments
  refine yields_ite (yields_error _) (yields_ite (yields_error _) (yields_ite (yields_error _) ?_))
  split
  · exact yields_error _
  · split
    · exact yields_error _
    · dsimp only
      split
      · exact yields_ok (hbound _)
      · exact yields_error _

/-- The filters that make markup of a value without markup. -/
def makesMarkup (name : String) : Bool := ["e", "escape", "safe"].contains name

/-- One case for each filter that makes no markup. -/
theorem yields_boundFilter {name : String} (hname : makesMarkup name = false) (hv : v.Unmarked)
    {b : List (Option Value)} (hb : ArgumentsUnmarked b) : Yields (boundFilter false name v b) Value.Unmarked := by
  have hor (k : Nat) {w : Value} (hw : w.Unmarked) := unmarked_argumentOr hb k hw
  have hdefault {c : Prop} [Decidable c] : (if c then argumentOr b 0 (.text "") else v).Unmarked := by
    split
    · exact hor 0 (.text "")
    · exact hv
  unfold boundFilter
  split
  · -- abs
    exact yields_absValue v
  · -- capitalize
    exact yields_ok (unmarked_onText _ hv)
  · -- count
    exact yields_bind fun _ => yields_ok (.int _)
  · -- length
    exact yields_bind fun _ => yields_ok (.int _)
  · -- d
    exact yields_ok hdefault
  · -- default
    exact yields_ok hdefault
  · -- dictsort
    exact yields_dictSort hv _ _ _
  · -- e
    cases hname
  · -- escape
    cases hname
  · -- first
    exact yields_firstOf hv
  · -- float
    exact yields_asReal v (hor 0 (.real _))
  · -- int
    exact yields_asWhole v (hor 0 (.int 0)) _
  · -- join
    exact yields_joinFilter v _ _
  · -- last
    exact yields_lastOf hv
  · -- list
    exact (yields_listOf hv).bind fun vs hvs => yields_ok (.list hvs)
  · -- lower
    exact yields_ok (unmarked_onText _ hv)
  · -- max
    exact yields_bestValue .gt hv _ _
  · -- min
    exact yields_bestValue .lt hv _ _
  · -- replace
    exact yields_replaceValue v _ _ _
  · -- reverse
    exact yields_reverseValue hv
  · -- round
    exact yields_roundValue v _ (hor 0 (.int 0))
  · -- safe
    cases hname
  · -- sort
    exact (yields_listOf hv).bind fun vs hvs => (yields_sortBy _ _ hvs).bind fun ws hws => yields_ok (.list hws)
  · -- string
    rw [hv.soft]
    exact yields_ok (.text _)
  · -- sum
    exact yields_sumValues hv (hor 1 (.int 0)) _
  · -- title
    exact yields_ok (.text _)
  · -- trim
    exact yields_ok (unmarked_onText _ hv)
  · -- upper
    exact yields_ok (unmarked_onText _ hv)
  · -- no filter
    exact yields_error _

/-- One case for each filter that is told whether output is escaped. -/
theorem boundFilter_flag {name : String} (hv : v.Unmarked) {b : List (Option Value)} (hb : ArgumentsUnmarked b)
    (escape : Bool) : boundFilter escape name v b = boundFilter false name v b := by
  have hor (k : Nat) {w : Value} (hw : w.Unmarked) := unmarked_argumentOr hb k hw
  by_cases hjoin : name = "join"
  · subst hjoin
    exact joinFilter_flag hv (hor 0 (.text "")) _ escape
  · by_cases hreplace : name = "replace"
    · subst hreplace
      exact replaceValue_flag hv (hor 0 .none) (hor 1 .none) _ escape
    · unfold boundFilter
      split
      all_goals first | rfl | exact absurd rfl hjoin | exact absurd rfl hreplace

section AllFilters

variable {name : String} {args : List Value} {named : List (String × Value)}

/-- **A filter that makes no markup** makes none of values without any. -/
theorem yields_applyFilter (hname : makesMarkup name = false) (hmap : name = "map" → args = []) (hv : v.Unmarked)
    (hargs : AllUnmarked args) (hnamed : NamedUnmarked named) :
    Yields (applyFilter false name v args named) Value.Unmarked := by
  unfold applyFilter applyFilterWithin
  split
  · rw [hmap rfl]
    exact yields_ok (unmarked_mapMembers _ hv hnamed)
  · exact yields_ok (unmarked_selectValue _ _ hv args named)
  · exact yields_ok (unmarked_selectValue _ _ hv args named)
  · exact yields_ok (unmarked_selectValue _ _ hv args named)
  · exact yields_ok (unmarked_selectValue _ _ hv args named)
  · split
    · exact yields_error _
    · exact (yields_bindArguments _ hargs hnamed).bind fun b hb => yields_boundFilter hname hv hb

/-- **Whether output is escaped** decides nothing for values without markup. -/
theorem applyFilter_flag (hmap : name = "map" → args = []) (hv : v.Unmarked) (hargs : AllUnmarked args)
    (hnamed : NamedUnmarked named) (escape : Bool) :
    applyFilter escape name v args named = applyFilter false name v args named := by
  unfold applyFilter applyFilterWithin
  split
  · rw [hmap rfl, mapValue_nil, mapValue_nil]
  · rfl
  · rfl
  · rfl
  · rfl
  · split
    · rfl
    · exact (yields_bindArguments _ hargs hnamed).bind_congr fun b hb => boundFilter_flag hv hb escape

end AllFilters

end RenderBench.Template
