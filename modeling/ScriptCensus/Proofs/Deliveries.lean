import ScriptCensus.Proofs.ReportRoundTrip
import ScriptCensus.Proofs.StoredReports
import ScriptCensus.Scan.Run

/-!
# Reports are handed on once, after they were stored

A report that cannot be stored is not handed on. One that was stored is handed on once, by an
absolute path where it is read as a whole, and nothing is done after that (`Delivery.Faithful`).
This holds of deliveries and of whole runs, whatever the dispatcher does and whatever is refused
(`Delivery.faithful`).
-/

namespace ScriptCensus

/-! ## What a stored report lists -/

/-- The number of functions of a file, as a report is written. -/
def JsonValue.listedFunctions (file : JsonValue) : Nat :=
  match file.member? "messages" with
  | some (.array functions) => functions.length
  | _ => 0

theorem FileReport.listedFunctions_toValue (f : FileReport) :
    (shape.toValue f).listedFunctions = f.functions.length := by
  simp [JsonValue.listedFunctions, shape, fields, Shape.toValue, Fields.toMembers,
    JsonValue.member?, List.lookup]

/-- A text is the JSON of a list of files, of which and of whose functions there are so many. -/
def Lists (text : String) (files functions : Nat) : Prop :=
  ∃ items : List JsonValue, text = (JsonValue.array items).pretty ++ "\n" ∧ files = items.length ∧
    functions = (items.map JsonValue.listedFunctions).sum

theorem Report.lists (r : Report) : Lists (r.render ++ "\n") r.files.length r.functionCount := by
  refine ⟨r.files.map FileReport.shape.toValue, rfl, ?_, ?_⟩
  · rw [List.length_map]
  · rw [functionCount, List.length_flatMap, List.map_map]
    exact congrArg List.sum (List.map_congr_left fun f _ => f.listedFunctions_toValue.symm)

/-! ## Deliveries -/

/-- What a delivery of a report ought to be, given what storing the report came to. -/
structure Delivery.Faithful (d : Delivery) (r : Report) (destination : Path)
    (dispatcher : Dispatcher) (storage : Storage) : Prop where
  notStored : ∀ cause, storage.result = .error cause →
    d.calls = [] ∧ d.result = .error (.notStored destination cause) ∧ d.files = storage.files
  handedOn : ∀ path, storage.result = .ok path →
    d.calls = [⟨path, storage.files⟩] ∧ path.isAbsolute = true ∧
      storage.files.read path = .ok (r.render ++ "\n").toUTF8 ∧
      d.files = (dispatcher path storage.files).2
  /-- An error of the dispatcher is passed on. The report is still there if the dispatcher leaves
  it. -/
  refused : ∀ path cause, storage.result = .ok path →
    (dispatcher path storage.files).1 = .error cause →
      d.result = .error (.notHandedOn cause) ∧
        ((dispatcher path storage.files).2.read path = storage.files.read path →
          d.files.read path = .ok (r.render ++ "\n").toUTF8)
  /-- What is counted is what was stored. -/
  answered : ∀ path payload, storage.result = .ok path →
    (dispatcher path storage.files).1 = .ok payload →
      ∃ outcome text, d.result = .ok outcome ∧ outcome.reportPath = path ∧
        outcome.payload = payload ∧ storage.files.readText path = .ok text ∧
        Lists text outcome.fileCount outcome.functionCount ∧
        (r.LinesFit → ∃ stored, Report.parse text = .ok stored ∧
          outcome.fileCount = stored.files.length ∧ outcome.functionCount = stored.functionCount)

theorem Report.readText_of_store {r : Report} {destination path : Path} {fs : FileSystem}
    {refusals : Refusals} (hsound : fs.IsSound)
    (h : (r.store destination fs refusals).result = .ok path) :
    (r.store destination fs refusals).files.readText path = .ok (r.render ++ "\n") := by
  rw [FileSystem.readText, (read_of_store hsound h).2]
  simp only [fromUTF8?_content]

/-- A delivery hands on the report as it was stored, or nothing. -/
theorem Report.faithful_deliver (r : Report) (destination : Path) (dispatcher : Dispatcher)
    {fs : FileSystem} (refusals : Refusals) (hsound : fs.IsSound) :
    (r.deliver destination dispatcher fs refusals).Faithful r destination dispatcher
      (r.store destination fs refusals) where
  notStored cause h := by simp [deliver, h]
  handedOn path h := by
    obtain ⟨habs, hread⟩ := read_of_store hsound h
    refine ⟨?_, habs, hread, ?_⟩
    · simp [deliver, h]
    · simp [deliver, h]
  refused path cause h hcause := by
    have hfiles : (r.deliver destination dispatcher fs refusals).files =
        (dispatcher path (r.store destination fs refusals).files).2 := by
      simp [deliver, h]
    refine ⟨?_, fun hkept => ?_⟩
    · simp [deliver, h, hcause]
    · rw [hfiles, hkept, (read_of_store hsound h).2, content]
  answered path payload h hpayload := by
    refine ⟨⟨path, r.files.length, r.functionCount, payload⟩, r.render ++ "\n", ?_, rfl, rfl,
      readText_of_store hsound h, r.lists, fun hlines => ?_⟩
    · simp [deliver, h, hpayload]
    · exact ⟨r, parse_render_newline hlines, rfl, rfl⟩

/-- Reports are handed on once and only after they were stored, by an absolute path where they are
read as a whole. Nothing is handed on if storing fails. -/
theorem Delivery.faithful (dispatcher : Dispatcher) {fs : FileSystem} (refusals : Refusals)
    (hsound : fs.IsSound) :
    (∀ (r : Report) (destination : Path),
      (r.deliver destination dispatcher fs refusals).Faithful r destination dispatcher
        (r.store destination fs refusals)) ∧
    ∀ (q : ScanRequest) (options : ScanOptions) (limit : Glob.SizeLimit),
      (q.run options dispatcher fs refusals limit).Faithful (q.report options fs limit).value
        q.destination dispatcher ((q.report options fs limit).value.store q.destination fs refusals) := by
  refine ⟨fun r destination => r.faithful_deliver destination dispatcher refusals hsound,
    fun q options limit => ?_⟩
  -- a run differs from a delivery in its warnings only
  have h :=
    (q.report options fs limit).value.faithful_deliver q.destination dispatcher refusals hsound
  exact ⟨h.notStored, h.handedOn, h.refused, h.answered⟩

/-- A new report takes the place of an old one and is handed on, to no avail. -/
theorem Delivery.faithful_oldReport :
    (Report.deliver ⟨[]⟩ ⟨"out.json"⟩ (fun _ fs => (.error (.rejected "offline"), fs))
        Report.oldReport).calls =
      [⟨⟨"/out.json"⟩, (Report.store ⟨[]⟩ ⟨"out.json"⟩ Report.oldReport).files⟩] ∧
    (Report.deliver ⟨[]⟩ ⟨"out.json"⟩ (fun _ fs => (.error (.rejected "offline"), fs))
        Report.oldReport).files.read ⟨"/out.json"⟩ = .ok (Report.render ⟨[]⟩ ++ "\n").toUTF8 := by
  have h := (Delivery.faithful (fun _ fs => (.error (.rejected "offline"), fs)) {}
    Report.isSound_oldReport).1 ⟨[]⟩ ⟨"out.json"⟩
  exact ⟨(h.handedOn _ Report.store_oldReport).1,
    (h.refused _ (.rejected "offline") Report.store_oldReport rfl).2 rfl⟩

end ScriptCensus
