import TypeGuard.Proofs.Following

/-! Nothing that runs looks at the journal. From worlds that differ only in what was recorded before, every run
goes the same way and adds the same to both journals. -/

namespace TypeGuard.Proofs

variable {α : Type} {early early' : Array Event} {before before' : World}

/-- The worlds are the same but for what was recorded early; the records since then are the same, too. -/
def Parallel (early early' : Array Event) (world world' : World) : Prop :=
  ∃ events, world.journal = early ++ events ∧ world' = { world with journal := early' ++ events }

def SameEffects (early early' : Array Event) : Option (α × World) → Option (α × World) → Prop :=
  Option.Rel fun result result' => result.1 = result'.1 ∧ Parallel early early' result.2 result'.2

namespace Parallel

theorem start (world : World) (journal : Array Event) :
    Parallel world.journal journal world { world with journal } :=
  ⟨#[], by simp, by simp⟩

theorem symm (parallel : Parallel early early' before before') : Parallel early' early before' before := by
  obtain ⟨events, journal, rfl⟩ := parallel
  exact ⟨events, rfl, by rw [← journal]⟩

theorem registries (parallel : Parallel early early' before before') : before'.registries = before.registries := by
  obtain ⟨events, -, rfl⟩ := parallel
  rfl

theorem cells (parallel : Parallel early early' before before') : before'.cells = before.cells := by
  obtain ⟨events, -, rfl⟩ := parallel
  rfl

theorem record (event : Event) (parallel : Parallel early early' before before') :
    Parallel early early' (before.record event) (before'.record event) := by
  obtain ⟨events, journal, rfl⟩ := parallel
  refine ⟨events.push event, ?_, ?_⟩
  · simp [World.record, journal]
  · simp [World.record]

theorem setRegistry (id : RegistryId) (registry : Registry) (parallel : Parallel early early' before before') :
    Parallel early early' (before.setRegistry id registry) (before'.setRegistry id registry) := by
  obtain ⟨events, journal, rfl⟩ := parallel
  exact ⟨events, journal, rfl⟩

end Parallel

private theorem parallel_alike : Alike (fun _ => false) (Parallel early early') where
  opened parallel := by obtain ⟨_, -, rfl⟩ := parallel; rfl
  refinements parallel registry root := by rw [parallel.registries]
  outcome? promise _ _ parallel := by simp only [World.outcome?, World.cell?, parallel.cells]
  memory parallel := by obtain ⟨_, -, rfl⟩ := parallel; rfl
  identities parallel := by obtain ⟨_, -, rfl⟩ := parallel; rfl
  nextPromise parallel := by simp only [World.nextPromise, parallel.cells]
  cell? promise _ _ _ parallel := by simp only [World.cell?, parallel.cells]
  note text _ _ parallel := parallel.record (.note text)
  guarding kind name signature _ _ parallel := parallel.record (.guarding kind name signature)
  register registry root tag check _ _ parallel := by
    simp only [World.register, parallel.registries]
    exact (parallel.setRegistry registry _).record _
  setEnabled registry enabled _ _ parallel := by
    simp only [World.setEnabled, parallel.registries]
    split
    · exact parallel.setRegistry registry _
    · exact (parallel.setRegistry registry _).record _
  openRegistry settings _ _ parallel := by
    obtain ⟨events, journal, rfl⟩ := parallel
    exact ⟨events, journal, rfl⟩
  identify parallel := by
    obtain ⟨events, journal, rfl⟩ := parallel
    exact ⟨events, journal, rfl⟩
  remember key value _ _ parallel := by
    obtain ⟨events, journal, rfl⟩ := parallel
    exact ⟨events, journal, rfl⟩
  defer routine _ _ parallel := by
    obtain ⟨events, journal, rfl⟩ := parallel
    exact ⟨events, journal, rfl⟩
  setCell promise _ cell _ _ parallel := by
    obtain ⟨events, journal, rfl⟩ := parallel
    exact ⟨events, journal, rfl⟩

private theorem run_parallel (host : Host) (depth : Nat) (program : Program α) :
    Follows (Parallel early early') (host.run depth program) (host.run depth program) := by
  have shown : ∀ registry before before', Parallel early early' before before' →
      (before.registries registry).enabled = (before'.registries registry).enabled := by
    intro registry before before' parallel
    rw [parallel.registries]
  exact run_follows parallel_alike (dispatch_follows host parallel_alike shown (fun _ _ spared => by cases spared) depth) shown
    program

/-- A run neither depends on what was recorded before it nor changes it. -/
theorem journal_unread (host : Host) (depth : Nat) (program : Program α) (parallel : Parallel early early' before before') :
    SameEffects early early' (host.run depth program before) (host.run depth program before') :=
  (run_parallel host depth program).both (run_parallel host depth program) Parallel.symm before before' parallel

theorem classify_unread (host : Host) (depth : Nat) (registry : RegistryId) (value : Value)
    (parallel : Parallel early early' before before') :
    SameEffects early early' (classify (host.dispatch depth) registry value before)
      (classify (host.dispatch depth) registry value before') := by
  have classified := journal_unread host depth (Program.request (.classify registry value)) parallel
  rwa [Host.run, Program.run_request] at classified

end TypeGuard.Proofs
