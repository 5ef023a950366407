import OgpuSdk.Client.PublishSource
import OgpuSdk.Client.Replies
import OgpuSdk.Protocol.Reads

/-!
# Published, and read back

What is published goes two ways, to the pinning service and to the chain, and
is read back through both: the parameters from the contract, the metadata from
where the parameters point. With a service that serves what it pinned and a
contract that keeps the tuple it was deployed with, a reader gets what the
publisher put in.
-/

namespace OgpuSdk

open Prog

/-! ## Objects -/

namespace Json

theorem field?_cons (entry : String × Json) (fields : List (String × Json)) (key : String) :
    field? (entry :: fields) key =
      (field? fields key).or (if entry.1 = key then some entry.2 else none) := by
  unfold field?
  rw [List.reverse_cons, List.find?_append, List.find?_singleton]
  by_cases h : entry.1 = key
  · cases fields.reverse.find? (·.1 == key) <;> simp [h]
  · cases fields.reverse.find? (·.1 == key) <;> simp [h]

theorem field?_eq_none {fields : List (String × Json)} {key : String} :
    field? fields key = none ↔ ∀ entry ∈ fields, entry.1 ≠ key := by
  unfold field?
  simp

/-- One entry of an update. -/
theorem field?_set (fields : List (String × Json)) (entry : String × Json) (key : String) :
    field? (if fields.any (·.1 == entry.1) then
        fields.map fun field => if field.1 == entry.1 then entry else field
      else fields ++ [entry]) key =
      if entry.1 = key then some entry.2 else field? fields key := by
  have happend : ∀ fields : List (String × Json), field? (fields ++ [entry]) key =
      if entry.1 = key then some entry.2 else field? fields key := by
    intro fields
    unfold field?
    by_cases h : entry.1 = key <;> simp [h]
  have hmap : ∀ fields : List (String × Json), fields.any (·.1 == entry.1) = true →
      field? (fields.map fun field => if field.1 == entry.1 then entry else field) key =
        if entry.1 = key then some entry.2 else field? fields key := by
    intro fields hany
    induction fields with
    | nil => cases hany
    | cons field fields ih =>
      rw [List.map_cons, field?_cons, field?_cons]
      by_cases hrest : fields.any (·.1 == entry.1) = true
      · rw [ih hrest]
        by_cases hkey : entry.1 = key
        · simp [hkey]
        · by_cases hf : field.1 = entry.1
          · have : ¬ field.1 = key := fun h => hkey (hf.symm.trans h)
            simp [hkey, hf]
          · simp [hkey, hf]
      · have hid : fields.map (fun field => if field.1 == entry.1 then entry else field) = fields := by
          refine (List.map_congr_left fun f hf => ?_).trans (List.map_id _)
          have hne : ¬ f.1 = entry.1 := fun h => hrest (List.any_eq_true.mpr ⟨f, hf, by simp [h]⟩)
          simp [hne]
        have hf : field.1 = entry.1 := by
          rw [List.any_cons, Bool.or_eq_true] at hany
          simpa [hrest] using hany
        rw [hid]
        by_cases hkey : entry.1 = key
        · have hnone : field? fields key = none := by
            refine field?_eq_none.mpr fun f hfm h => hrest (List.any_eq_true.mpr ⟨f, hfm, ?_⟩)
            simp [h, hkey]
          simp [hnone, hf, hkey]
        · simp [hf, hkey]
  split
  · next h => exact hmap fields h
  · exact happend fields

/-- A field of an updated object is the one it was updated with, or the one it had. -/
theorem field?_update (fields more : List (String × Json)) (key : String) :
    field? (update fields more) key = (field? more key).or (field? fields key) := by
  unfold update
  induction more generalizing fields with
  | nil => rfl
  | cons entry more ih =>
    rw [List.foldl_cons, ih, field?_set, field?_cons]
    by_cases h : entry.1 = key
    · cases field? more key <;> simp [h]
    · cases field? more key <;> simp [h]

theorem field?_of_mem {fields : List (String × Json)} (h : (fields.map (·.1)).Nodup)
    {entry : String × Json} (hentry : entry ∈ fields) : field? fields entry.1 = some entry.2 := by
  induction fields with
  | nil => cases hentry
  | cons field fields ih =>
    rw [List.map_cons, List.nodup_cons] at h
    rw [field?_cons]
    rcases List.mem_cons.mp hentry with rfl | hmem
    · have hnone : field? fields entry.1 = none := by
        refine field?_eq_none.mpr fun other hother heq => h.1 ?_
        exact List.mem_map.mpr ⟨other, hother, heq⟩
      simp [hnone]
    · rw [ih h.2 hmem]
      rfl

end Json

/-! ## The pinning service -/

/-- The service gives this link for what is uploaded in a run that ends in `w`, and its gateway
serves there the objects of these uploads. -/
structure Serves (posts : Nat → PostNet) (get : Gateway) (link : String) (w : World) : Prop where
  pinned : ∀ k timeout response, ((posts k).post timeout).answer = .ok response →
    response.statusCode = 200 ∨ response.statusCode = 201 →
      (PostOutcome.pinned link).Is (.ok response)
  served : ∀ x ∈ w.posts, ∀ data, x.1.content = .dumped data →
    (get link 30).answer = .ok ⟨200, .ok data⟩

theorem IpfsPublish.reaction_success {answer : Except Exc HttpResponse} {link : String}
    (h : reaction answer = .ok (.inl link)) :
    ∃ response, answer = .ok response ∧ (response.statusCode = 200 ∨ response.statusCode = 201) := by
  unfold reaction at h
  split at h
  · cases h
  · cases h
  · next response =>
    refine ⟨response, rfl, ?_⟩
    by_contra hstatus
    rw [if_neg hstatus] at h
    split at h <;> cases h

theorem World.posts_subset {w w' : World} (h : w.events <+: w'.events) : w.posts ⊆ w'.posts :=
  (h.filterMap _).subset

/-- An upload that returns gives back the link of the service, where its object is served as long
as nothing is undone. -/
theorem Serves.upload {self : IpfsPublish} {posts : Nat → PostNet} {get : Gateway}
    {link url : String} {data : Json} {w w' u : World} (h : Serves posts get link u)
    (hrun : (self.run posts).exec w = (.ok url, w')) (hevents : w'.events <+: u.events)
    (hfile : self.file.content = .dumped data) :
    url = link ∧ (get link 30).answer = .ok ⟨200, .ok data⟩ := by
  obtain ⟨k, s, hreaction, rfl⟩ := self.run_done hrun
  constructor
  · obtain ⟨response, hanswer, hstatus⟩ := IpfsPublish.reaction_success hreaction
    have hpinned := h.pinned _ _ _ hanswer hstatus
    rw [hanswer, hpinned.reaction_pinned] at hreaction
    cases hreaction
    rfl
  · refine h.served (self.file, self.effectiveTimeout s.clock.mono) ?_ data hfile
    apply World.posts_subset hevents
    rw [IpfsPublish.posts_posted]
    exact List.mem_append_cons_self

/-! ## Sources -/

namespace Client

/-- From a time on, a call is answered with the tuple that one of these transactions carries. -/
def Keeps (sends : List (Tx × SendAnswer)) (chain : ReadNet) (since : ℚ) (call : ContractCall) :
    Prop :=
  ∃ x ∈ sends, ∃ tuple, x.1.call.args.getLast? = some tuple ∧ chain.Stays since call tuple

/-- A node at which contracts keep the tuple of the first of these transactions. -/
def keeping (sends : List (Tx × SendAnswer)) : ReadNet where
  load := .prompt
  took := fun _ _ => ⟨0, 0⟩
  state := fun _ _ =>
    match sends.head?.bind (·.1.call.args.getLast?) with
    | some tuple => .ok tuple
    | none => undecoded "nothing"

theorem keeps_keeping {sends : List (Tx × SendAnswer)} {since : ℚ} {call : ContractCall}
    (h : sends.map (·.1.call.args.length) = [1]) : Keeps sends (keeping sends) since call := by
  cases sends with
  | nil => cases h
  | cons x rest =>
    rw [List.map_cons, List.cons.injEq] at h
    obtain ⟨tuple, htuple⟩ := List.length_eq_one_iff.mp h.1
    refine ⟨x, List.mem_cons_self, tuple, by rw [htuple]; rfl, fun t _ => ?_⟩
    simp [keeping, htuple]

theorem keeping_reaches (sends : List (Tx × SendAnswer)) (abiName : String) (address : Address) :
    (keeping sends).Reaches (.imported ⟨0, 0⟩) abiName address := ⟨_, _, rfl⟩

/-- A gateway that serves one object. -/
def serving (data : Json) : Gateway := fun _ _ => ⟨⟨0, 0⟩, .ok ⟨200, .ok data⟩⟩

/-- What a reader of a source gets from `u`: the parameters of the source, with environments and a
client to match, and its metadata. -/
structure SourceReadsBack (host : Host) (info : SourceInfo) (privateKey : Option Signer)
    (chain : ReadNet) (get : Gateway) (source : Source) (u : World) : Prop where
  params : ∃ account link second w', Signs host.keys privateKey (some .client) account ∧
    (source.getParams chain).exec u =
      (.ok (sourceParams info (host.text account.address) link second), w')
  environments : ∀ params w', (source.getParams chain).exec u = (.ok params, w') →
    parseEnvironments params.imageEnvironments =
      Environment.flags.all.filter fun e => info.imageEnvs.url e ≠ ""
  metadata : ∃ w', (source.getMetadata chain get).exec u = (.ok info.metadata.toDict, w')

variable {host : Host} {info : SourceInfo} {privateKey : Option Signer} {net : SourceNet}
  {chain : ReadNet} {get : Gateway} {link : String} {u w : World} {source : Source}

theorem Submitted.readsBack {op : SourceParams → WriteOp} {w' : World}
    (h : Submitted host info privateKey net op w.blank w')
    (hop : ∀ params prepared, (op params).prep.result host = some prepared →
      prepared.args.getLast? = some params.toTuple)
    (hserves : Serves net.posts get link w')
    (hkeeps : Keeps w'.sends chain u.clock.mono ⟨source.address, "getSourceParams", []⟩)
    (hreach : chain.Reaches u "SourceAbi" source.address) :
    SourceReadsBack host info privateKey chain get source u := by
  obtain ⟨x, hx, tuple, hlast, hcall⟩ := hkeeps
  rcases h.sends x hx with hx | ⟨account, url, w₁, hsigns, hurl, hevents, -, -, prepared, hprep, -,
    hargs, -⟩
  · cases hx
  obtain ⟨rfl, hserved⟩ := hserves.upload hurl hevents rfl
  rw [hargs, hop _ _ hprep] at hlast
  cases hlast
  obtain ⟨u', hparams⟩ := exec_params hreach hcall (SourceParams.ofRaw_toTuple _)
  change (source.getParams chain).exec u = _ at hparams
  obtain ⟨u'', hfetch⟩ := exec_fetch_ok u' hserved
  refine ⟨⟨account, url, _, u', hsigns, hparams⟩, ?_, u'', ?_⟩
  · intro params w'' hparams'
    cases hparams.symm.trans hparams'
    exact info.imageEnvs.parse_combined
  · unfold Source.getMetadata
    rw [exec_bind_ok hparams]
    exact hfetch

/-- A source that was published, or updated, reads back as what was submitted. -/
theorem source_readsBack (link : String) (hreach : chain.Reaches u "SourceAbi" source.address) :
    (Serves net.posts get link ((publishSource host info privateKey net).exec w.blank).2 →
      Keeps ((publishSource host info privateKey net).exec w.blank).2.sends chain u.clock.mono
        ⟨source.address, "getSourceParams", []⟩ →
      SourceReadsBack host info privateKey chain get source u) ∧
    (Serves net.posts get link
        ((updateSource host info privateKey net (host.text source.address)).exec w.blank).2 →
      Keeps ((updateSource host info privateKey net (host.text source.address)).exec w.blank).2.sends
        chain u.clock.mono ⟨source.address, "getSourceParams", []⟩ →
      SourceReadsBack host info privateKey chain get source u) := by
  have hpublish : Submitted host info privateKey net Nexus.publishSource w.blank
      ((publishSource host info privateKey net).exec w.blank).2 := publishSource_submitted
  have hupdate : Submitted host info privateKey net (Nexus.updateSource (host.text source.address))
      w.blank ((updateSource host info privateKey net (host.text source.address)).exec w.blank).2 :=
    submit_submitted
  refine ⟨fun hserves hkeeps => hpublish.readsBack ?_ hserves hkeeps hreach,
    fun hserves hkeeps => hupdate.readsBack ?_ hserves hkeeps hreach⟩
  · rintro params prepared ⟨⟩
    rfl
  · intro params prepared h
    simp only [Nexus.updateSource, Prep.result] at h
    split at h
    · cases h
      rfl
    · cases h

/-- A submission uploads the metadata only. -/
theorem Submitted.file_of_mem {op : SourceParams → WriteOp} {w' : World}
    (h : Submitted host info privateKey net op w.blank w') :
    ∀ x ∈ w'.posts, x.1 = (metadataUpload info).file := by
  obtain ⟨uploads, rest, hevents, huploads, hrest⟩ := h.phases
  intro x hx
  obtain ⟨e, he, hpost⟩ := List.mem_filterMap.mp hx
  rw [hevents, show w.blank.events = [] from rfl, List.nil_append] at he
  rcases List.mem_append.mp he with he | he
  · exact (huploads e he).2 x hpost
  · rw [hrest e he] at hpost
    cases hpost

/-- A source with two images is published and read back. -/
theorem source_readsBack_prompt :
    SourceReadsBack .trial ⟨"s", "", "", ⟨"c", "", "a"⟩, 1, 0, 60, .firstResponse⟩
      (some (.key "key"))
      (keeping ((publishSource .trial ⟨"s", "", "", ⟨"c", "", "a"⟩, 1, 0, 60, .firstResponse⟩
        (some (.key "key")) .prompt).exec (World.imported ⟨0, 0⟩).blank).2.sends)
      (serving (SourceInfo.metadata ⟨"s", "", "", ⟨"c", "", "a"⟩, 1, 0, 60,
        .firstResponse⟩).toDict) ⟨0x4#160⟩ (.imported ⟨0, 0⟩) := by
  refine (source_readsBack "ipfs://source" (keeping_reaches _ _ _)).1 ⟨?_, ?_⟩
    (keeps_keeping (by decide +kernel))
  · rintro k timeout response ⟨⟩ -
    exact .pinned (.inr rfl) rfl
  · intro x hx data hdata
    rw [publishSource_submitted.file_of_mem x hx] at hdata
    cases hdata
    rfl

/-! ## Tasks -/

/-- The extras are keyword arguments: their names differ, and neither is a parameter of
`TaskInput`. -/
structure TaskInput.KwargsOnly (input : TaskInput) : Prop where
  nodup : (input.extra.map (·.1)).Nodup
  own : ∀ entry ∈ input.extra, entry.1 ≠ "function_name" ∧ entry.1 ≠ "data"

/-- The object carries the function to run, its data and the extras. -/
structure TaskInput.CarriedBy (input : TaskInput) (fields : List (String × Json)) : Prop where
  functionName : Json.field? fields "function_name" = some (.str input.functionName)
  data : Json.field? fields "data" = some input.data
  extra : ∀ entry ∈ input.extra, Json.field? fields entry.1 = some entry.2

theorem TaskInput.KwargsOnly.carried {input : TaskInput} (h : input.KwargsOnly) :
    ∃ fields, input.toDict = .obj fields ∧ input.CarriedBy fields := by
  refine ⟨_, rfl, ?_, ?_, fun entry hentry => ?_⟩
  · have hnone : Json.field? input.extra "function_name" = none :=
      Json.field?_eq_none.mpr fun entry hentry => (h.own entry hentry).1
    rw [Json.field?_update, hnone]
    rfl
  · have hnone : Json.field? input.extra "data" = none :=
      Json.field?_eq_none.mpr fun entry hentry => (h.own entry hentry).2
    rw [Json.field?_update, hnone]
    rfl
  · rw [Json.field?_update, Json.field?_of_mem h.nodup hentry]
    rfl

/-- What a provider reading a task from `u` gets: the parameters, pointing at what to run. -/
structure TaskReadsBack (info : TaskInfo) (chain : ReadNet) (get : Gateway) (task : Task)
    (u : World) : Prop where
  params : ∃ link w', (task.getParams chain).exec u =
    (.ok ⟨info.source, link, info.expiryTime, info.payment⟩, w')
  metadata : ∃ fields w', (task.getMetadata chain get).exec u = (.ok (.obj fields), w') ∧
    info.config.CarriedBy fields

section

variable {keys : Keys} {info : TaskInfo} {privateKey : Option Signer} {options : Options}
  {net : PublishNet} {exe : TxExecutor} {w₁ : World} {task : Task}

/-- Every transaction of a publish carries the parameters of the task, with the link that its upload
returned. -/
theorem publishTask_args :
    ∀ x ∈ ((publishTask keys info privateKey options net).exec w.blank).2.sends, ∃ url w₁,
      ((taskUpload info options w.clock.mono).run net.posts).exec w.blank = (.ok url, w₁) ∧
      w₁.events <+: ((publishTask keys info privateKey options net).exec w.blank).2.events ∧
      x.1.call.args =
        [(⟨info.source, url, info.expiryTime, info.payment⟩ : TaskParams).toTuple] := by
  have hpath : World.Path (fun _ op => ∀ x, op.send? = some x → ∃ exe w₁,
      (prepare keys info privateKey options net).exec w.blank = (.ok exe, w₁) ∧
        x.1.call = exe.call)
      w.blank ((publishTask keys info privateKey options net).exec w.blank).2 := by
    apply publishTask_path
    · intro u timeout _ x hx
      cases hx
    · intro u op hq x hx
      cases op with
      | send => cases hq
      | _ => cases hx
    · intro u address nonce x hx
      cases hx
    · rintro exe k s u tx ⟨w₁, hp, -⟩ hs - x hx
      cases hx
      obtain ⟨pending, -, -, -, rfl⟩ := TxExecutor.sending_eq_some.mp hs
      exact ⟨exe, w₁, hp, rfl⟩
  intro x hx
  have hnone : ∀ x ∈ w.blank.sends, ∃ exe w₁,
      (prepare keys info privateKey options net).exec w.blank = (.ok exe, w₁) ∧
        x.1.call = exe.call := by
    rintro x ⟨⟩
  obtain ⟨exe, w₁, hp, hcall⟩ := hpath.sends_allowed hnone x hx
  obtain ⟨url, w₂, hurl, hevents, hargs⟩ := prepare_upload hp
  have hexecute : World.Path (fun _ _ => True) w₁
      ((exe.execute net.controller.attempts net.controller.connected).exec w₁).2 :=
    exe.execute_path (fun _ _ _ => trivial) (fun _ _ _ => trivial) fun _ _ _ _ _ _ _ => trivial
  refine ⟨url, w₂, hurl, hevents.trans ?_, by rw [hcall, hargs]⟩
  exact hexecute.events_isPrefix.trans (execute_path_final hp).events_isPrefix

/-- A publish uploads the configuration only. -/
theorem publishTask_file :
    ∀ x ∈ ((publishTask keys info privateKey options net).exec w.blank).2.posts,
      x.1 = (taskUpload info options w.clock.mono).file := by
  have hpath : World.Path (fun _ op => ∀ x, op.post? = some x →
      x.1 = (taskUpload info options w.clock.mono).file)
      w.blank ((publishTask keys info privateKey options net).exec w.blank).2 := by
    apply publishTask_path
    · rintro u timeout _ x ⟨⟩
      rfl
    · intro u op hq x hx
      cases op with
      | post => cases hq
      | _ => cases hx
    · intro u address nonce x hx
      cases hx
    · intro exe k s u tx _ _ _ x hx
      cases hx
  obtain ⟨es, hes, hall⟩ := hpath.events_append
  intro x hx
  obtain ⟨e, he, hpost⟩ := List.mem_filterMap.mp hx
  rw [hes] at he
  exact hall e he x hpost

/-- A task that was published reads back as what the client asked for. -/
theorem task_readsBack (link : String) (hkwargs : info.config.KwargsOnly)
    (hserves : Serves net.posts get link
      ((publishTask keys info privateKey options net).exec w.blank).2)
    (hreach : chain.Reaches u "TaskAbi" task.address)
    (hkeeps : Keeps ((publishTask keys info privateKey options net).exec w.blank).2.sends chain
      u.clock.mono ⟨task.address, "taskParams", []⟩) :
    TaskReadsBack info chain get task u := by
  obtain ⟨x, hx, tuple, hlast, hcall⟩ := hkeeps
  obtain ⟨url, w₁, hurl, hevents, hargs⟩ := publishTask_args x hx
  obtain ⟨rfl, hserved⟩ := hserves.upload hurl hevents rfl
  rw [hargs] at hlast
  cases hlast
  obtain ⟨u', hparams⟩ := exec_params hreach hcall (TaskParams.ofRaw_toTuple _)
  change (task.getParams chain).exec u = _ at hparams
  obtain ⟨u'', hfetch⟩ := exec_fetch_ok u' hserved
  obtain ⟨fields, hdict, hcarried⟩ := hkwargs.carried
  refine ⟨⟨url, u', hparams⟩, fields, u'', ?_, hcarried⟩
  unfold Task.getMetadata
  rw [exec_bind_ok hparams, hfetch, hdict]

end

/-- A task with an extra is published and read back. -/
theorem task_readsBack_prompt :
    TaskReadsBack ⟨"0x4", ⟨"main", .int 7, [("priority", .str "high")]⟩, 100, 5⟩
      (keeping ((publishTask .trial ⟨"0x4", ⟨"main", .int 7, [("priority", .str "high")]⟩, 100, 5⟩
        (some (.key "key")) .default .prompt).exec (World.imported ⟨0, 0⟩).blank).2.sends)
      (serving (TaskInput.toDict ⟨"main", .int 7, [("priority", .str "high")]⟩)) ⟨0x3#160⟩
      (.imported ⟨0, 0⟩) := by
  refine task_readsBack "ipfs://config" ⟨by decide, by simp⟩ ⟨?_, ?_⟩ (keeping_reaches _ _ _)
    (keeps_keeping (by decide +kernel))
  · rintro k timeout response ⟨⟩ -
    exact .pinned (.inr rfl) rfl
  · intro x hx data hdata
    rw [publishTask_file x hx] at hdata
    cases hdata
    rfl

end Client

end OgpuSdk
