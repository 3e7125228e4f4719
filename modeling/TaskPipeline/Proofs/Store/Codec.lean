import TaskPipeline.Proofs.Json.RoundTrip
import TaskPipeline.Store.Row

/-!
# Stored records are read back

The reflections of a task, the marker and the fatal issue are kept as texts. Each is a plain value,
so its text is read as that value, and its reader finds every field where the writer put it.
-/

namespace TaskPipeline

namespace Json

/-! ## Fields -/

theorem bind_of_eq_some {α β : Type} {x : Option α} {f : α → Option β} {a : α} {b : β}
    (hx : x = some a) (hf : f a = some b) : x >>= f = some b := by rw [hx]; exact hf

theorem asNat_ofNat {bound n : Nat} (h : n < bound) : asNat bound (ofNat n) = some n := by
  have hb : 0 ≤ (n : Int) ∧ (n : Int) < bound := ⟨Int.natCast_nonneg _, Int.ofNat_lt.mpr h⟩
  simp only [asNat, ofNat, asInt, Option.bind_eq_bind, Option.bind_some]
  rw [if_pos hb, Int.toNat_natCast]

theorem asUInt32_ofUInt32 (n : UInt32) : asUInt32 (ofUInt32 n) = some n := by
  rw [asUInt32, ofUInt32, asNat_ofNat n.toNat_lt_size, Option.map_some, UInt32.ofNat_toNat]

theorem asInt64_ofInt64 (n : Int64) : asInt64 (ofInt64 n) = some n := by
  have hb : Int64.minValue.toInt ≤ n.toInt ∧ n.toInt ≤ Int64.maxValue.toInt :=
    ⟨n.minValue_le_toInt, n.toInt_le⟩
  simp only [asInt64, ofInt64, ofInt, asInt, Option.bind_eq_bind, Option.bind_some]
  rw [if_pos hb, Int64.ofInt_toInt]

theorem asOption_of_ne_null {α : Type} (read : Json → Option α) {j : Json} (h : j ≠ null) :
    asOption read j = (read j).map some := by
  cases j with
  | null => exact absurd rfl h
  | _ => rfl

theorem asOption_ofOption {α : Type} {read : Json → Option α} (write : α → Json)
    (hread : ∀ a, read (write a) = some a) (hnull : ∀ a, write a ≠ null) (o : Option α) :
    asOption read (ofOption write o) = some o := by
  cases o with
  | none => rfl
  | some a => rw [ofOption, asOption_of_ne_null read (hnull a), hread, Option.map_some]

theorem asOption_ofOption_str (o : Option String) : asOption asString (ofOption .str o) = some o :=
  asOption_ofOption .str (fun _ => rfl) (fun _ h => nomatch h) o

theorem asOption_ofOption_int64 (o : Option Int64) :
    asOption asInt64 (ofOption ofInt64 o) = some o :=
  asOption_ofOption ofInt64 asInt64_ofInt64 (fun _ h => nomatch h) o

namespace Slots

variable {s : Slots} {field : String} {j : Json} {α : Type} {a : α}

theorem required_of_get {read : Json → Option α} (h : s.get field = .given j)
    (hr : read j = some a) : s.required field read = some a := by
  rw [required, h]; exact hr

theorem optional_of_get {read : Json → Option (Option α)} {o : Option α}
    (h : s.get field = .given j) (hr : read j = some o) : s.optional field read = some o := by
  rw [optional, h]; exact hr

end Slots

theorem fits_natCast {n : Nat} (h : n < UInt64.size) : Fits n :=
  ⟨Int.le_trans (by decide) (Int.natCast_nonneg n), Int.ofNat_lt.mpr h⟩

theorem plain_ofUInt32 (room : Nat) (n : UInt32) : Plain room (ofUInt32 n) := by
  have h : n.toNat < UInt64.size := Nat.lt_trans n.toNat_lt_size (by decide)
  simpa only [ofUInt32, ofNat, Plain] using fits_natCast h

theorem plain_ofInt64 (room : Nat) (n : Int64) : Plain room (ofInt64 n) := by
  have h : n.toInt < UInt64.size := Int.lt_of_le_of_lt n.toInt_le (by decide)
  have hf : Fits n.toInt := ⟨n.minValue_le_toInt, h⟩
  simpa only [ofInt64, ofInt, Plain] using hf

theorem plain_ofOption {α : Type} {write : α → Json} {room : Nat}
    (h : ∀ a, Plain room (write a)) (o : Option α) : Plain room (ofOption write o) := by
  cases o with
  | none => simp only [ofOption, Plain]
  | some a => exact h a

theorem plain_ofOption_str (room : Nat) (o : Option String) : Plain room (ofOption .str o) :=
  plain_ofOption (fun _ => by simp only [Plain]) o

end Json

open Json

/-! ## Reflections -/

theorem FailureCategory.ofJson?_toJson (c : FailureCategory) : ofJson? c.toJson = some c := by
  cases c <;> rfl

namespace Reflection

theorem slots_toJson (r : Reflection) : r.toJson.slots fields = some
    [("attempt_number", .given (ofUInt32 r.attemptNumber)),
      ("failure_category", .given r.category.toJson),
      ("blind_spot", .given (.str r.blindSpot)),
      ("next_action", .given (.str r.nextAction)),
      ("failure_excerpt", .given (.str r.failureExcerpt)),
      ("timestamp", .given (ofInt64 r.timestamp))] := rfl

theorem ofJson?_toJson (r : Reflection) : ofJson? r.toJson = some r := by
  unfold ofJson?
  refine bind_of_eq_some (slots_toJson r) ?_
  refine bind_of_eq_some (Slots.required_of_get rfl (asUInt32_ofUInt32 r.attemptNumber)) ?_
  refine bind_of_eq_some (Slots.required_of_get rfl r.category.ofJson?_toJson) ?_
  refine bind_of_eq_some (a := r.blindSpot) rfl ?_
  refine bind_of_eq_some (a := r.nextAction) rfl ?_
  refine bind_of_eq_some (a := r.failureExcerpt) rfl ?_
  exact bind_of_eq_some (Slots.required_of_get rfl (asInt64_ofInt64 r.timestamp)) rfl

theorem plain_toJson (room : Nat) (r : Reflection) : Plain (room + 1) r.toJson := by
  simp only [toJson, Plain, PlainMembers, FailureCategory.toJson, plain_ofUInt32, plain_ofInt64,
    and_self]

theorem plainItems_toJson (room : Nat) : ∀ rs : List Reflection,
    PlainItems (room + 1) (rs.map toJson)
  | [] => by simp only [List.map_nil, PlainItems]
  | r :: rs => by
    simp only [List.map_cons, PlainItems]
    exact ⟨plain_toJson room r, plainItems_toJson room rs⟩

theorem mapM_ofJson?_toJson : ∀ rs : List Reflection, (rs.map toJson).mapM ofJson? = some rs
  | [] => rfl
  | r :: rs => by
    rw [List.map_cons, List.mapM_cons, ofJson?_toJson, mapM_ofJson?_toJson rs]
    rfl

/-- **Stored reflections are read back as they were.** -/
theorem ofListText?_listText (rs : List Reflection) : ofListText? (listText rs) = some rs := by
  have hp : Plain maxDepth (.arr (rs.map toJson)) := by
    simp only [maxDepth, Plain]; exact plainItems_toJson _ rs
  exact bind_of_eq_some (parse_toText hp) (mapM_ofJson?_toJson rs)

end Reflection

/-! ## The marker and the fatal issue -/

namespace PipelineMarker

theorem slots_toJson (m : PipelineMarker) :
    m.toJson.slots ["version", "pid", "started_at", "heartbeat_at"] = some
      [("version", .given (.str m.version)), ("pid", .given (ofUInt32 m.pid)),
        ("started_at", .given (ofInt64 m.startedAt)),
        ("heartbeat_at", .given (ofInt64 m.heartbeatAt))] := rfl

theorem ofJson?_toJson (m : PipelineMarker) : ofJson? m.toJson = some m := by
  unfold ofJson?
  refine bind_of_eq_some (slots_toJson m) ?_
  refine bind_of_eq_some (a := m.version) rfl ?_
  refine bind_of_eq_some (Slots.required_of_get rfl (asUInt32_ofUInt32 m.pid)) ?_
  refine bind_of_eq_some (Slots.required_of_get rfl (asInt64_ofInt64 m.startedAt)) ?_
  exact bind_of_eq_some (Slots.required_of_get rfl (asInt64_ofInt64 m.heartbeatAt)) rfl

theorem read_toText (m : PipelineMarker) : (parse? m.toJson.toText).bind ofJson? = some m := by
  have hp : Plain maxDepth m.toJson := by
    simp only [toJson, maxDepth, Plain, PlainMembers, plain_ofUInt32, plain_ofInt64, and_self]
  rw [parse_toText hp, Option.bind_some, ofJson?_toJson]

end PipelineMarker

namespace FatalIssue

theorem slots_toJson (f : FatalIssue) :
    f.toJson.slots ["reason", "restart_count", "last_version", "recorded_at"] = some
      [("reason", .given (.str f.reason)), ("restart_count", .given (ofUInt32 f.restartCount)),
        ("last_version", .given (ofOption .str f.lastVersion)),
        ("recorded_at", .given (ofInt64 f.recordedAt))] := rfl

theorem ofJson?_toJson (f : FatalIssue) : ofJson? f.toJson = some f := by
  unfold ofJson?
  refine bind_of_eq_some (slots_toJson f) ?_
  refine bind_of_eq_some (a := f.reason) rfl ?_
  refine bind_of_eq_some (Slots.required_of_get rfl (asUInt32_ofUInt32 f.restartCount)) ?_
  refine bind_of_eq_some (Slots.optional_of_get rfl (asOption_ofOption_str f.lastVersion)) ?_
  exact bind_of_eq_some (Slots.required_of_get rfl (asInt64_ofInt64 f.recordedAt)) rfl

theorem read_toText (f : FatalIssue) : (parse? f.toJson.toText).bind ofJson? = some f := by
  have hp : Plain maxDepth f.toJson := by
    simp only [toJson, maxDepth, Plain, PlainMembers, plain_ofUInt32, plain_ofInt64,
      plain_ofOption_str, and_self]
  rw [parse_toText hp, Option.bind_some, ofJson?_toJson]

end FatalIssue

end TaskPipeline
