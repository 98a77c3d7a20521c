import AosServiceManager.Config.Parse

/-! What `ParseConfig` writes into the sections of the config: each section's parser writes only
its own member, so what one parser establishes survives the parsers after it. -/
namespace AosServiceManager
namespace Configuration

open Runner (Duration)

namespace Parse.Triple

variable {σ τ α : Type} {R : σ → Prop}

/-- A parser that leaves its state as it was keeps every fact of it. -/
theorem stateless {p : Parse σ α} (h : ∀ s, (p.exec s).2 = s) : Triple R p fun _ => R := by
  intro s a s' hs he
  have hs' : s' = s := by simpa only [he] using h s
  exact hs' ▸ hs

theorem ofExcept_keep {x : Except Failure α} : Triple R (Parse.ofExcept x) fun _ => R := stateless fun _ => rfl

/-- A branch between reading an object and a default, as `ParseConfig` picks its
sub-objects. -/
theorem ite_keep {c : Prop} [Decidable c] {x : Except Failure α} {y : α} :
    Triple R (if c then Parse.ofExcept x else pure y) fun _ => R :=
  stateless fun _ => by split <;> rfl

theorem modify_frame {f : σ → σ} (hf : ∀ s, R s → R (f s)) : Triple R (modify f : Parse σ PUnit) fun _ => R :=
  modify_rule hf

theorem ofExcept_value {x : Except Failure α} : Triple R (Parse.ofExcept x) fun a s => R s ∧ x = .ok a :=
  ofExcept_rule fun _ _ hs hx => ⟨hs, hx⟩

/-- A parser on a member that keeps what the rest of the state satisfies. -/
theorem onPart_keep {get : σ → τ} {set : σ → τ → σ} (hR : ∀ s t, R s → R (set s t)) (p : Parse τ α) :
    Triple R (Parse.onPart get set p) fun _ => R := by
  intro s a s' hs he
  simp only [exec_onPart, Prod.mk.injEq] at he
  exact he.2 ▸ hR _ _ hs

/-- A parser on a member: what it establishes of the member from what held of it, beside
what the rest of the state keeps. -/
theorem onPart_rule {get : σ → τ} {set : σ → τ → σ} (hget : ∀ s t, get (set s t) = t) (hR : ∀ s t, R s → R (set s t))
    {P : τ → Prop} {Q : α → τ → Prop} {p : Parse τ α} (hp : Triple P p Q) :
    Triple (fun s => R s ∧ P (get s)) (Parse.onPart get set p) fun a s => R s ∧ Q a (get s) := by
  rintro s a s' ⟨hs, hps⟩ he
  simp only [exec_onPart, Prod.mk.injEq] at he
  rw [← he.2, hget]
  exact ⟨hR _ _ hs, hp _ a _ hps (Prod.ext he.1 rfl)⟩

end Parse.Triple

open Parse.Triple

section Frames

variable {Obj : Type} (L : Library Obj) {σ : Type} {R : σ → Prop}

theorem getValue_keep {α : Type} (read : Obj → String → Except Failure (Option α)) (object : Obj) (key : String)
    (default : α) : Parse.Triple R (getValue read object key default) fun _ => R :=
  ofExcept_keep

theorem errorCheckAndThrow_rule (err : Error) (message : String) :
    Parse.Triple R (errorCheckAndThrow L err message) fun _ s => R s ∧ err.IsNone := by
  unfold errorCheckAndThrow
  split
  · exact throw_rule
  · rename_i h
    exact pure_rule fun s hs => ⟨hs, by simpa using h⟩

theorem tieDuration_keep {set : σ → Duration → σ} (hR : ∀ s d, R s → R (set s d)) (text message : String) :
    Parse.Triple R (tieDuration L text set message) fun _ => R :=
  bind_rule (modify_frame fun s hs => hR s _ hs) fun _ =>
    (errorCheckAndThrow_rule L _ message).mono (fun _ h => h) fun _ _ h => h.1

theorem parseRemoveOutdatedPeriod_keep {set : σ → Duration → σ} (hR : ∀ s d, R s → R (set s d)) (object : Obj) :
    Parse.Triple R (parseRemoveOutdatedPeriod L object set) fun _ => R := by
  refine bind_rule ofExcept_keep fun period => ?_
  cases period
  · exact pure_rule fun _ h => h
  · exact tieDuration_keep L hR _ _

end Frames

/-! ### The download directory -/

section Download

variable {Obj : Type} (L : Library Obj)

/-- The download directory both manager parsers read: the `downloadDir` key, by default
`<workingDir>/downloads`. -/
def downloadDirValue (object : Obj) (workingDir : String) : Except Failure String :=
  (L.GetString object "downloadDir").map (·.getD (JoinPath workingDir "downloads"))

/-- What a manager parser that ends without an exception leaves as its download directory. -/
theorem parseManagerConfig_downloadDir (dirKey dirName partLimitKey ttlKey cDefaultTTL ttlMessage : String)
    (object : Obj) (workingDir : String) :
    Parse.Triple (fun _ => True)
      (parseManagerConfig L dirKey dirName partLimitKey ttlKey cDefaultTTL ttlMessage object workingDir)
      fun _ c => ∃ dir, downloadDirValue L object workingDir = .ok dir ∧ c.downloadDir = cStr dir := by
  unfold parseManagerConfig
  refine bind_rule (true_rule _) fun _ => bind_rule (true_rule _) fun _ => ?_
  refine bind_rule ofExcept_value fun dir => ?_
  refine bind_rule (modify_rule (Q := fun _ c => downloadDirValue L object workingDir = .ok dir ∧
    c.downloadDir = cStr dir) fun _ h => ⟨h.2, rfl⟩) fun _ => ?_
  refine mono (Q := fun _ c => downloadDirValue L object workingDir = .ok dir ∧ c.downloadDir = cStr dir) ?_
    (fun _ h => h) fun _ _ h => ⟨dir, h⟩
  repeat' with_reducible first
    | exact parseRemoveOutdatedPeriod_keep L (by exact fun _ _ h => h) object
    | refine bind_rule (tieDuration_keep L (by exact fun _ _ h => h) _ _) fun _ => ?_
    | refine bind_rule (modify_frame (by exact fun _ h => h)) fun _ => ?_
    | refine bind_rule (getValue_keep _ _ _ _) fun _ => ?_

variable {cMaxNumHostBinds cMaxNumHosts : Nat} (cLogContentLen : UInt64)

/-- After a `try` block that ends without an exception the service manager and the layer
manager have one download directory. -/
theorem parseObject_downloadDir (object : Obj) :
    Parse.Triple (fun _ => True) (parseObject L cLogContentLen object : Parse (Config cMaxNumHostBinds cMaxNumHosts) Unit)
      fun _ c => c.serviceManagerConfig.downloadDir = c.layerManagerConfig.downloadDir := by
  let Layer (workingDir : String) (c : Config cMaxNumHostBinds cMaxNumHosts) : Prop :=
    ∃ dir, downloadDirValue L object workingDir = .ok dir ∧ c.layerManagerConfig.downloadDir = cStr dir
  have layer : ∀ workingDir, Parse.Triple (fun _ => True) (Parse.onPart (·.layerManagerConfig)
      (fun c x => { c with layerManagerConfig := x }) (ParseLayerManagerConfig L object workingDir))
      fun _ => Layer workingDir := fun workingDir =>
    onPart_part (fun _ _ => rfl) (parseManagerConfig_downloadDir L _ _ _ _ _ _ object workingDir)
  have service : ∀ workingDir, Parse.Triple (Layer workingDir) (Parse.onPart (·.serviceManagerConfig)
      (fun c x => { c with serviceManagerConfig := x }) (ParseServiceManagerConfig L object workingDir))
      fun _ c => c.serviceManagerConfig.downloadDir = c.layerManagerConfig.downloadDir := fun workingDir =>
    mono (onPart_rule (by intros; rfl) (by exact fun _ _ h => h)
      (parseManagerConfig_downloadDir L _ _ _ _ _ _ object workingDir))
      (fun _ h => ⟨h, trivial⟩) fun _ _ ⟨⟨_, hd, hl⟩, _, hd', hs⟩ => by rw [hs, hl, Except.ok.inj (hd'.symm.trans hd)]
  unfold parseObject
  refine bind_rule (true_rule _) fun workingDir => bind_rule (true_rule _) fun _ => bind_rule (true_rule _) fun _ =>
    bind_rule (layer workingDir) fun _ => bind_rule (service workingDir) fun _ => ?_
  repeat' with_reducible first
    | exact onPart_keep (by exact fun _ _ h => h) _
    | refine bind_rule (onPart_keep (by exact fun _ _ h => h) _) fun _ => ?_
    | refine bind_rule (modify_frame (by exact fun _ h => h)) fun _ => ?_
    | refine bind_rule (getValue_keep _ _ _ _) fun _ => ?_
    | refine bind_rule ite_keep fun _ => ?_

end Download

/-! ### Host binds and hosts -/

section Launcher

variable {Obj : Type} (L : Library Obj) {cMaxNumHostBinds cMaxNumHosts : Nat}

end Launcher

/-! ### The whole file -/

section File

variable {Obj : Type} (L : Library Obj) {cMaxNumHostBinds cMaxNumHosts : Nat} (cLogContentLen : UInt64)

/-- `ParseConfig` returns no error only for a file it opens and parses into an object whose
`try` block ends without an exception, in the config it returns. -/
theorem ParseConfig_IsNone_object {file : Option String} {config : Config cMaxNumHostBinds cMaxNumHosts}
    (h : (ParseConfig L cLogContentLen file config).1.IsNone) :
    ∃ text object, file = some text ∧ L.parse text = .ok object ∧
      (parseObject L cLogContentLen object).exec config = (.ok (), (ParseConfig L cLogContentLen file config).2) := by
  obtain ⟨text, hf, hr⟩ := ParseConfig_IsNone L cLogContentLen h
  rcases hp : L.parse text with _ | object <;> simp only [Parse.exec_bind, Parse.exec_ofExcept, hp] at hr
  · cases hr
  · exact ⟨text, object, hf, hp, hr⟩

/-- A config that `ParseConfig` reports parsed has one download directory for the service
manager and the layer manager. -/
theorem ParseConfig_downloadDir {file : Option String} {config : Config cMaxNumHostBinds cMaxNumHosts}
    (h : (ParseConfig L cLogContentLen file config).1.IsNone) :
    (ParseConfig L cLogContentLen file config).2.serviceManagerConfig.downloadDir =
      (ParseConfig L cLogContentLen file config).2.layerManagerConfig.downloadDir := by
  obtain ⟨-, object, -, -, hr⟩ := ParseConfig_IsNone_object L cLogContentLen h
  exact parseObject_downloadDir L cLogContentLen object config () _ trivial hr

end File

end Configuration
end AosServiceManager
