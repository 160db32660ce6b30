import RenderBench.Log.Format
import RenderBench.Proofs.Json.Writing
import RenderBench.Proofs.Lookup

/-!
# `Proofs.Log.Line` — what a JSON log line says

The members of a line are set in three layers, the members every line has, the attributes of the record that are copied
and the entries of the mapping `extra`. Setting a member replaces the one of its name or comes last, so that the latest
layer that has a name decides its value and no name comes twice. The line is read back as these members.

## Contents
- `lookup_setMembers`, `nodup_setMembers`: values and names after members have been set.
- `lookup_toJsonMembers`: the members of the document of a mapping.
- `Record.baseEntry`, `Record.entry`: what a line says under a name.
- `Record.oddKey?_of_names`, `Record.jsonLine_eq_ok`: records that have a line.
- `jsonLine_reads`: the line and what is read from it.
-/

namespace RenderBench.Log

/-! ## Setting members -/

variable {name k : String} {value : Datum} {ms us : List (String × Datum)}

theorem lookup_setMember (name : String) (value : Datum) (ms : List (String × Datum)) (k : String) :
    (setMember name value ms).lookup k = if k = name then some value else ms.lookup k := by
  induction ms with
  | nil => exact lookup_pair name value [] k
  | cons m ms ih =>
    obtain ⟨j, v⟩ := m
    rw [setMember]
    by_cases hj : j = name
    · rw [if_pos hj, lookup_pair, lookup_pair, hj]
      split
      · rfl
      · rfl
    · rw [if_neg hj, lookup_pair, lookup_pair, ih]
      by_cases hk : k = j
      · rw [if_pos hk, if_neg (fun h => hj (hk.symm.trans h)), if_pos hk]
      · rw [if_neg hk, if_neg hk]

/-- Of several members set under a name the last one counts, and before them what was there. -/
theorem lookup_setMembers (ms us : List (String × Datum)) (k : String) :
    (setMembers ms us).lookup k = (us.reverse.lookup k).or (ms.lookup k) := by
  induction us generalizing ms with
  | nil => rfl
  | cons u us ih =>
    obtain ⟨j, v⟩ := u
    have hlast : (us.reverse ++ [(j, v)]).lookup k = (us.reverse.lookup k).or (if k = j then some v else none) := by
      rw [List.lookup_append, lookup_pair, List.lookup_nil]
    rw [setMembers, List.foldl_cons, ← setMembers, ih, lookup_setMember, List.reverse_cons, hlast, Option.or_assoc]
    congr 1
    by_cases h : k = j
    · rw [if_pos h, if_pos h]
      rfl
    · rw [if_neg h, if_neg h]
      rfl

theorem mem_setMember {e : String × Datum} (h : e ∈ setMember name value ms) : e = (name, value) ∨ e ∈ ms := by
  induction ms with
  | nil => exact .inl (List.mem_singleton.mp h)
  | cons m ms ih =>
    obtain ⟨j, v⟩ := m
    rw [setMember] at h
    by_cases hj : j = name
    · rw [if_pos hj] at h
      exact (List.mem_cons.mp h).imp id fun h => List.mem_cons_of_mem (j, v) h
    · rw [if_neg hj] at h
      rcases List.mem_cons.mp h with h | h
      · exact .inr (h ▸ List.mem_cons_self)
      · exact (ih h).imp id fun hk => List.mem_cons_of_mem (j, v) hk

theorem mem_names_setMember (h : k ∈ (setMember name value ms).map Prod.fst) :
    k = name ∨ k ∈ ms.map Prod.fst := by
  obtain ⟨e, he, rfl⟩ := List.mem_map.mp h
  exact (mem_setMember he).imp (congrArg Prod.fst) List.mem_map_of_mem

theorem mem_setMembers {e : String × Datum} (h : e ∈ setMembers ms us) : e ∈ us ∨ e ∈ ms := by
  induction us generalizing ms with
  | nil => exact .inr h
  | cons u us ih =>
    rw [setMembers, List.foldl_cons, ← setMembers] at h
    rcases ih h with h | h
    · exact .inl (List.mem_cons_of_mem u h)
    · refine (mem_setMember h).imp_left ?_
      rintro rfl
      exact List.mem_cons_self

/-- Setting a member leaves names that come once at once. -/
theorem nodup_setMember (h : (ms.map Prod.fst).Nodup) : ((setMember name value ms).map Prod.fst).Nodup := by
  induction ms with
  | nil => exact List.nodup_singleton name
  | cons m ms ih =>
    obtain ⟨j, v⟩ := m
    obtain ⟨hnot, hrest⟩ := List.nodup_cons.mp h
    rw [setMember]
    by_cases hj : j = name
    · rw [if_pos hj]
      exact List.nodup_cons.mpr ⟨hj ▸ hnot, hrest⟩
    · rw [if_neg hj]
      refine List.nodup_cons.mpr ⟨fun hmem => ?_, ih hrest⟩
      exact (mem_names_setMember hmem).elim hj hnot

theorem nodup_setMembers (h : (ms.map Prod.fst).Nodup) : ((setMembers ms us).map Prod.fst).Nodup := by
  induction us generalizing ms with
  | nil => exact h
  | cons u us ih =>
    rw [setMembers, List.foldl_cons, ← setMembers]
    exact ih (nodup_setMember h)

/-! ## The document of a mapping -/

theorem lookup_toJsonMembers (es : List (String × Datum)) (k : String) :
    (Datum.toJsonMembers es).lookup k = (es.lookup k).map Datum.toJson := by
  induction es with
  | nil => rfl
  | cons e es ih =>
    obtain ⟨j, v⟩ := e
    rw [Datum.toJsonMembers, List.lookup_cons, List.lookup_cons, ih]
    cases k == j with
    | true => rfl
    | false => rfl

theorem names_toJsonMembers (es : List (String × Datum)) :
    (Datum.toJsonMembers es).map Prod.fst = es.map Prod.fst := by
  induction es with
  | nil => rfl
  | cons e es ih =>
    rw [Datum.toJsonMembers, List.map_cons, ih, List.map_cons]

/-! ## The layers of a line -/

namespace Record

/-- What every line says under a name: the level, the logger, the message, and the error and the stack if there are
    any. -/
def baseEntry (r : Record) (message : String) (k : String) : Option Datum :=
  if k = "level" then some ((r.added? "levelname").getD (.text r.level.name))
  else if k = "logger" then some ((r.added? "name").getD (.text r.logger))
  else if k = "message" then some (.text message)
  else if k = "exc_info" then r.failureText
  else if k = "stack_info" then r.stackText
  else none

/-- What a line says under a name: the entry of the mapping `extra`, else the attribute if it is copied, else what every
    line says. -/
def entry (r : Record) (message : String) (k : String) : Option Datum :=
  (r.nested.reverse.lookup k).or ((if isPromoted k then r.added? k else none).or (r.baseEntry message k))

variable {r : Record} {message : String}

/-- A member that may be absent. -/
theorem lookup_optional (name : String) (value : Option Datum) (ms : List (String × Datum)) (k : String) :
    ((value.map fun d => (name, d)).toList ++ ms).lookup k =
      if k = name then value.or (ms.lookup k) else ms.lookup k := by
  cases value with
  | none =>
    split
    · rfl
    · rfl
  | some d => exact lookup_pair name d ms k

theorem lookup_base (r : Record) (message k : String) : (r.base message).lookup k = r.baseEntry message k := by
  have hbase : r.base message = ("level", (r.added? "levelname").getD (.text r.level.name)) ::
      ("logger", (r.added? "name").getD (.text r.logger)) :: ("message", .text message) ::
        ((r.failureText.map fun d => ("exc_info", d)).toList ++
          ((r.stackText.map fun d => ("stack_info", d)).toList ++ [])) := by
    rw [List.append_nil]
    rfl
  rw [hbase, lookup_pair, lookup_pair, lookup_pair, lookup_optional, lookup_optional, List.lookup_nil,
    Option.or_none, baseEntry]
  by_cases h : k = "exc_info"
  · have hne : k ≠ "stack_info" := by
      rw [h]
      decide
    rw [if_neg hne, Option.or_none]
  · rw [if_neg h, if_neg h]

theorem nodup_base (r : Record) (message : String) : ((r.base message).map Prod.fst).Nodup := by
  cases hfailure : r.failureText with
  | none =>
    cases hstack : r.stackText with
    | none => simp [base, hfailure, hstack]
    | some d => simp [base, hfailure, hstack]
  | some f =>
    cases hstack : r.stackText with
    | none => simp [base, hfailure, hstack]
    | some d => simp [base, hfailure, hstack]

/-- The attributes that are copied, by name. -/
theorem lookup_promoted (es : List (String × Datum)) (k : String) :
    (es.filter fun e => isPromoted e.1).reverse.lookup k = if isPromoted k then es.reverse.lookup k else none := by
  rw [← List.filter_reverse]
  exact lookup_filter isPromoted es.reverse k

theorem lookup_payload (r : Record) (message k : String) : (r.payload message).lookup k = r.entry message k := by
  rw [payload, lookup_setMembers, lookup_setMembers, lookup_base, entry]
  have hpromoted := lookup_promoted r.extra k
  rw [← added?] at hpromoted
  exact congrArg (fun copied => (r.nested.reverse.lookup k).or (copied.or (r.baseEntry message k))) hpromoted

theorem nodup_payload (r : Record) (message : String) : ((r.payload message).map Prod.fst).Nodup :=
  nodup_setMembers (nodup_setMembers (nodup_base r message))

/-! ## Records that have a line -/

theorem oddKeyOf?_eq_none_iff {es : List (String × Datum)} :
    Datum.oddKeyOf? es = none ↔ ∀ e ∈ es, e.2.oddKey? = none := by
  induction es with
  | nil => exact iff_of_true rfl (List.forall_mem_nil _)
  | cons e es ih => rw [Datum.oddKeyOf?, Option.or_eq_none_iff, ih, List.forall_mem_cons]

/-- The text of an error is a text. -/
theorem oddKey?_failureText {d : Datum} (h : r.failureText = some d) : d.oddKey? = none := by
  unfold failureText at h
  split at h
  · split at h
    · exact Option.some.inj h ▸ rfl
    · cases h
  · obtain ⟨f, -, rfl⟩ := Option.map_eq_some_iff.mp h
    rfl

section Names

variable (hextra : ∀ e ∈ r.extra, e.2.oddKey? = none)

include hextra

theorem oddKey?_added {name : String} {d : Datum} (h : r.added? name = some d) : d.oddKey? = none :=
  hextra _ (List.mem_reverse.mp (mem_of_lookup h))

theorem oddKey?_added_getD {name : String} {d : Datum} (hd : d.oddKey? = none) :
    ((r.added? name).getD d).oddKey? = none := by
  cases h : r.added? name with
  | none => exact hd
  | some d' => exact oddKey?_added hextra h

theorem oddKey?_stackText {d : Datum} (hstack : r.stack.oddKey? = none) (h : r.stackText = some d) :
    d.oddKey? = none := by
  unfold stackText at h
  dsimp only at h
  split at h
  · exact Option.some.inj h ▸ oddKey?_added_getD hextra hstack
  · cases h

/-- The members that every line has: texts, values of attributes and the stack. -/
theorem oddKey?_base (hstack : r.stack.oddKey? = none) (message : String) :
    ∀ e ∈ r.base message, e.2.oddKey? = none := by
  intro e he
  simp only [base, List.mem_append, List.mem_cons, List.not_mem_nil, or_false, Option.mem_toList,
    Option.map_eq_some_iff] at he
  obtain ((rfl | rfl | rfl) | ⟨d, hd, rfl⟩) | ⟨d, hd, rfl⟩ := he
  · exact oddKey?_added_getD hextra rfl
  · exact oddKey?_added_getD hextra rfl
  · rfl
  · exact oddKey?_failureText hd
  · exact oddKey?_stackText hextra hstack hd

theorem oddKey?_nested : ∀ e ∈ r.nested, e.2.oddKey? = none := by
  unfold nested
  split
  · next es hes => exact oddKeyOf?_eq_none_iff.mp (oddKey?_added hextra hes)
  · exact List.forall_mem_nil _

/-- Attributes whose keys are all names leave a record without a key that no document has. -/
theorem oddKey?_of_names (hstack : r.stack.oddKey? = none) (message : String) : r.oddKey? message = none := by
  -- what is set in a layer comes from the attributes, and what is not set from the base
  have hpayload : Datum.oddKeyOf? (r.payload message) = none := by
    refine oddKeyOf?_eq_none_iff.mpr fun e he => ?_
    rcases mem_setMembers he with he | he
    · exact oddKey?_nested hextra e he
    · rcases mem_setMembers he with he | he
      · exact hextra e (List.mem_of_mem_filter he)
      · exact oddKey?_base hextra hstack message e he
  unfold oddKey?
  split
  · next f hf => exact Option.or_eq_none_iff.mpr ⟨oddKey?_added hextra hf, hpayload⟩
  · exact hpayload

end Names

theorem jsonLine_eq_ok (h : r.message = .ok message) (hkeys : r.oddKey? message = none) :
    r.jsonLine = .ok (Datum.dict (r.payload message)).toJson.write := by
  unfold jsonLine
  rw [h]
  simp only [Except.mapError, bind, Except.bind, hkeys]
  rfl

/-- **A JSON log line** is one line of printable ASCII. What is read from it is an object whose members are those of the
    three layers, the latest layer first, and in which no name comes twice. A value without a JSON form stands as its
    text. -/
theorem jsonLine_reads (r : Record) (message : String) (h : r.message = .ok message)
    (hkeys : r.oddKey? message = none) :
    ∃ line ms, r.jsonLine = .ok line ∧ Printable line.toList ∧ Json.read? line = some (.object ms) ∧
      (ms.map Prod.fst).Nodup ∧ (∀ k, ms.lookup k = (r.entry message k).map Datum.toJson) ∧
      ∀ k f, r.entry message k = some (.foreign f) → ms.lookup k = some (.text f.text) := by
  have hlookup (k : String) : (Datum.toJsonMembers (r.payload message)).lookup k =
      (r.entry message k).map Datum.toJson := by
    rw [lookup_toJsonMembers, lookup_payload]
  refine ⟨_, Datum.toJsonMembers (r.payload message), jsonLine_eq_ok h hkeys, Json.printable_write _, Json.read?_write _, ?_, hlookup,
    fun k f hentry => ?_⟩
  · rw [names_toJsonMembers]
    exact nodup_payload r message
  · rw [hlookup, hentry]
    rfl

/-- A record with a name that is set twice, one that stays out, and a mapping that replaces the level by a path. -/
def crowdedRecord : Record where
  logger := "tablebench.runner"
  level := Level.info
  text := .text "hello %s"
  arguments := .several [.text "you"]
  extra := [("runs", .int 3), ("_hidden", .bool true), ("runs", .int 4),
    ("extra", .dict [("level", .foreign (.path "/tmp/x")), ("note", .null)])]

/-- The line of such a record. -/
theorem jsonLine_reads_crowded : crowdedRecord.message = .ok "hello you" ∧
    ∃ line ms, crowdedRecord.jsonLine = .ok line ∧ Printable line.toList ∧ Json.read? line = some (.object ms) ∧
      (ms.map Prod.fst).Nodup ∧ ms.lookup "level" = some (.text "/tmp/x") ∧ ms.lookup "runs" = some (.int 4) ∧
        ms.lookup "_hidden" = none ∧ ms.lookup "message" = some (.text "hello you") := by
  have hmessage : crowdedRecord.message = .ok "hello you" := by rfl
  obtain ⟨line, ms, hline, hprintable, hread, hnodup, hlookup, hforeign⟩ :=
    jsonLine_reads crowdedRecord "hello you" hmessage (by decide +kernel)
  have hlevel : crowdedRecord.entry "hello you" "level" = some (.foreign (.path "/tmp/x")) := by rfl
  have hcopied : isPromoted "runs" = true := by decide +kernel
  have hhidden : isPromoted "_hidden" = false := by decide +kernel
  refine ⟨hmessage, line, ms, hline, hprintable, hread, hnodup, hforeign "level" (.path "/tmp/x") hlevel, ?_, ?_,
    ?_⟩
  · rw [hlookup, entry, hcopied]
    rfl
  · rw [hlookup, entry, hhidden]
    rfl
  · rw [hlookup]
    rfl

end Record

end RenderBench.Log
