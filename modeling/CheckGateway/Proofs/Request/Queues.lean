/-
Lists of job queues, given as such or as a text.

Whoever asks for job queues may give their list as it is or encode it in a text. It makes
no difference: the text comes to what the value in it comes to, be it the same queues in
the same order or the same error. `Refuses` says which error a value comes to. The first
element that is no map is told before any map that names no queue, wherever they stand.
-/
import CheckGateway.Proofs.Json.Streamed
import CheckGateway.Proofs.Request.Arguments

namespace CheckGateway.Request

open Json (Value)

/-- A value is a list of maps, and each of them names the job queue at its place. -/
def ListsRefs (v : Value) (refs : List JobQueueRef) : Prop :=
  ∃ entries : List Record, v = .array (entries.map Record.toValue)
    ∧ List.Forall₂ NamesQueue entries refs

/-- Why a value that an argument has is no list of job queues. -/
inductive Refuses (name : String) : Value → GatewayError → Prop where
  | noList {v : Value} (h : ∀ items, v ≠ .array items) :
      Refuses name v (.invalidArgument name (Json.Decode.wrongKind "a sequence" v).message)
  | noMap {before after : List Value} {item : Value}
      (hbefore : ∀ other ∈ before, ∃ members, other = .object members)
      (hitem : ∀ members, item ≠ .object members) :
      Refuses name (.array (before ++ item :: after))
        (.invalidArgument name (Json.Decode.wrongKind "a map" item).message)
  | empty : Refuses name (.array []) (.missingField name)
  | unnamed {entries : List Record} {entry : Record} (hmem : entry ∈ entries)
      (h : ∀ ref, ¬ NamesQueue entry ref) :
      Refuses name (.array (entries.map Record.toValue))
        (.invalidArgument name "JobQueue name/library attribute must be set")

section

variable {r r' : Request} {name text : String} {v w : Value} {e : GatewayError}
  {refs : List JobQueueRef} {entry : Record} {ref : JobQueueRef}

theorem map_eq_error_iff {problem : Json.Problem} : Json.Decode.map v = .error problem
    ↔ (∀ members, v ≠ .object members) ∧ problem = Json.Decode.wrongKind "a map" v := by
  cases v with
  | object members => exact iff_of_false nofun fun h => h.1 members rfl
  | _ => exact ⟨fun h => ⟨nofun, (Except.error.inj h).symm⟩, fun h => congrArg _ h.2.symm⟩

/-- The text of a list is as good as the list. -/
theorem mapList_string (h : Json.parse text = .ok v) (hstring : ∀ s, v ≠ .string s) :
    mapList (.string text) = mapList v := by
  show Wire.readMapList text = mapList v
  rw [Json.readMapList_of_parse h]
  cases v with
  | string s => exact absurd rfl (hstring s)
  | _ => rfl

theorem sequence_map_eq_error_iff {problem : Json.Problem} :
    Json.Decode.sequence Json.Decode.map v = .error problem
      ↔ ((∀ items, v ≠ .array items) ∧ problem = Json.Decode.wrongKind "a sequence" v)
        ∨ ∃ before item after, v = .array (before ++ item :: after)
          ∧ (∀ other ∈ before, ∃ members, other = .object members)
          ∧ (∀ members, item ≠ .object members)
          ∧ problem = Json.Decode.wrongKind "a map" item := by
  have hmap (other : Value) :
      (∃ entry, Json.Decode.map other = .ok entry) ↔ ∃ members, other = .object members := by
    simp only [map_eq_ok_iff]
    exact ⟨fun ⟨entry, h⟩ => ⟨entry.members, h⟩, fun ⟨members, h⟩ => ⟨⟨members⟩, h⟩⟩
  cases v with
  | array items =>
      show items.mapM Json.Decode.map = .error problem ↔ _
      simp only [mapM_eq_error_iff, hmap, map_eq_error_iff, Value.array.injEq]
      refine ⟨.inr, ?_⟩
      rintro (⟨h, -⟩ | h)
      · exact absurd rfl (h items)
      · exact h
  | _ =>
      constructor
      · intro h
        cases h
        exact .inl ⟨nofun, rfl⟩
      · rintro (⟨-, rfl⟩ | ⟨_, _, _, h, -⟩)
        · rfl
        · cases h

/-- What an argument comes to depends on the maps that are read from it. -/
theorem queueRefs_congr (hv : r.arg? name = some v) (hw : r'.arg? name = some w)
    (h : mapList v = mapList w) : r.queueRefs name = r'.queueRefs name := by
  unfold queueRefs
  rw [hv, hw]
  dsimp only
  rw [h]

theorem queueRefs_of_entries {entries : List Record} (hv : r.arg? name = some v)
    (h : mapList v = .ok entries) (hnonempty : entries ≠ []) :
    r.queueRefs name = entries.mapM (queueRef name) := by
  unfold queueRefs
  rw [hv]
  dsimp only
  rw [h]
  cases entries with
  | nil => exact absurd rfl hnonempty
  | cons entry entries => rfl

/-- A value that is no text comes to the job queues that it lists, or is refused. -/
theorem listed_or_refused (hv : r.arg? name = some v) (hstring : ∀ s, v ≠ .string s) :
    (∃ refs, r.queueRefs name = .ok refs ∧ refs ≠ [] ∧ ListsRefs v refs)
      ∨ ∃ e, r.queueRefs name = .error e ∧ Refuses name v e := by
  have hlist : mapList v = Json.Decode.sequence Json.Decode.map v := by
    cases v with
    | string s => exact absurd rfl (hstring s)
    | _ => rfl
  cases hread : Json.Decode.sequence Json.Decode.map v with
  | error problem =>
      have hrefs : r.queueRefs name = .error (.invalidArgument name problem.message) := by
        unfold queueRefs
        rw [hv]
        dsimp only
        rw [hlist, hread]
      refine .inr ⟨_, hrefs, ?_⟩
      obtain ⟨h, rfl⟩ | ⟨before, item, after, rfl, hbefore, hitem, rfl⟩ :=
        sequence_map_eq_error_iff.1 hread
      · exact .noList h
      · exact .noMap hbefore hitem
  | ok entries =>
      obtain rfl := sequence_map_eq_ok_iff.1 hread
      cases entries with
      | nil =>
          refine .inr ⟨.missingField name, ?_, .empty⟩
          unfold queueRefs
          rw [hv]
          rfl
      | cons entry entries =>
          have hrefs : r.queueRefs name = (entry :: entries).mapM (queueRef name) :=
            queueRefs_of_entries hv (hlist.trans hread) (List.cons_ne_nil _ _)
          cases hnamed : (entry :: entries).mapM (queueRef name) with
          | ok refs =>
              have hall : List.Forall₂ NamesQueue (entry :: entries) refs :=
                (mapM_eq_ok_iff.1 hnamed).imp fun _ _ => queueRef_eq_ok_iff.1
              refine .inl ⟨refs, hrefs.trans hnamed, ?_, _, rfl, hall⟩
              rintro rfl
              cases hall
          | error e =>
              obtain ⟨before, bad, after, heq, -, hbad⟩ := mapM_eq_error_iff.1 hnamed
              obtain ⟨hnone, rfl⟩ := queueRef_eq_error_iff.1 hbad
              have hmem : bad ∈ entry :: entries :=
                heq ▸ List.mem_append_right before List.mem_cons_self
              exact .inr ⟨_, hrefs.trans hnamed, .unnamed hmem hnone⟩

end

/-- It makes no difference whether a list of job queues is given as such or as a text of
it, whatever the value is that the text holds. Both come to the same queues, one at least,
and they are what the maps in the list name, in order; or both come to the same error, and
it is why that value is refused. -/
theorem queues_alike_given_or_encoded {text name : String} {v : Value} {encoded given : Request}
    (h : Json.parse text = .ok v) (hstring : ∀ s, v ≠ .string s) (hnull : v ≠ .null)
    (hencoded : encoded.args.get? name = some (.string text))
    (hgiven : given.args.get? name = some v) :
    encoded.queueRefs name = given.queueRefs name
      ∧ ((∃ refs, given.queueRefs name = .ok refs ∧ refs ≠ [] ∧ ListsRefs v refs)
        ∨ ∃ e, given.queueRefs name = .error e ∧ Refuses name v e) := by
  have hgiven : given.arg? name = some v := arg?_eq_some_iff.2 ⟨hgiven, hnull⟩
  have hencoded : encoded.arg? name = some (.string text) :=
    arg?_eq_some_iff.2 ⟨hencoded, nofun⟩
  exact ⟨queueRefs_congr hencoded hgiven (mapList_string h hstring),
    listed_or_refused hgiven hstring⟩

/-- A request for the job queues of a list. -/
def asking (queues : Value) : Request :=
  ⟨⟨"as400", "qsecofr", "secret"⟩, "getJobQueues", ⟨[("queues", queues)]⟩, "request"⟩

/-- A list whose only map has a name twice. -/
def renamed : String := "[\x7b\"name\":\"QBATCH\",\"library\":\"QGPL\",\"name\":\"QINTER\"\x7d]"

/-- In such a map the last name counts, encoded or not. -/
theorem queues_alike_renamed :
    Json.parse renamed
        = .ok (.array [.object [("library", .string "QGPL"), ("name", .string "QINTER")]])
      ∧ (asking (.string renamed)).queueRefs "queues" = .ok [⟨"QINTER", "QGPL"⟩] := by
  have hparse : Json.parse renamed
      = .ok (.array [.object [("library", .string "QGPL"), ("name", .string "QINTER")]]) := by
    cbv
  have halike := queues_alike_given_or_encoded hparse (by simp) (by simp)
    (rfl : (asking (.string renamed)).args.get? "queues" = some (.string renamed))
    (rfl : (asking _).args.get? "queues" = some _)
  exact ⟨hparse, halike.1⟩

end CheckGateway.Request
