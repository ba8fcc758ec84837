import QueryGateway.Proofs.SessionMoves

/-!
# The registry of pools

In every session that comes of its first step, however other callers intervene,
a source has at most one pool registered, and that pool was built for it.  A
pool that leaves the registry is disposed of in the same step, and no
connection of it is handed out in a later one.
-/

namespace QueryGateway

open List

/-- A session that has at most one pool registered for each source, and only pools that were built
for it. -/
structure Session.Consistent (session : Session) : Prop where
  nodup : (session.registry.map Prod.fst).Nodup
  origin :
    ∀ entry ∈ session.registry,
      session.origins[entry.2]?.map DataSource.id = some entry.1

namespace Session.Consistent

variable
  {session : Session}
  (consistent : session.Consistent)

include consistent

theorem registered?_eq_some_iff
    {source : SourceId}
    {number : Nat} :
    session.registered? source = some number ↔
      (source, number) ∈ session.registry := by
  refine ⟨mem_of_registered?, fun member => ?_⟩
  obtain ⟨earlier, later, shape⟩ := mem_iff_append.mp member
  refine lookup_eq_some_iff.mpr ⟨earlier, later, shape, fun entry listed => ?_⟩
  have nodup := consistent.nodup
  rw [shape, map_append, map_cons, nodup_append] at nodup
  have distinct : entry.1 ≠ source :=
    nodup.2.2 entry.1 (mem_map_of_mem (f := Prod.fst) listed) source (.head _)
  simpa using distinct.symm

theorem lt_length_of_mem
    {entry : SourceId × Nat}
    (member : entry ∈ session.registry) :
    entry.2 < session.pools.length := by
  have origin := consistent.origin entry member
  obtain ⟨source, found, _⟩ := Option.map_eq_some_iff.mp origin
  simpa using (List.getElem?_eq_some_iff.mp found).1

end Session.Consistent

namespace Run.Reached

variable
  {start : Session}
  {run : Run}
  {hand : List Connection}
  {own : List Nat}

theorem consistent
    (begun : start.Consistent)
    (reached : Reached start run hand own) :
    run.session.Consistent := by
  induction reached with
  | begun server =>
      exact begun
  | noted plain reached inductionHypothesis =>
      exact ⟨inductionHypothesis.nodup, inductionHypothesis.origin⟩
  | asked source reached inductionHypothesis =>
      exact ⟨inductionHypothesis.nodup, inductionHypothesis.origin⟩
  | opened pool reached inductionHypothesis =>
      exact ⟨inductionHypothesis.nodup, inductionHypothesis.origin⟩
  | @built run hand own source reached inductionHypothesis =>
      refine ⟨inductionHypothesis.nodup, fun entry listed => ?_⟩
      have origin := inductionHypothesis.origin entry listed
      rw [Session.origins_withPool, getElem?_append_left]
      · exact origin
      · simpa using inductionHypothesis.lt_length_of_mem listed
  | @added run hand own source absent reached inductionHypothesis =>
      have fresh : source.id ∉ run.session.registry.map Prod.fst := by
        intro listed
        obtain ⟨entry, member, same⟩ := mem_map.mp listed
        have different := lookup_eq_none_iff.mp absent entry member
        simp [same] at different
      constructor
      · change ((run.session.registry ++ [(source.id, _)]).map Prod.fst).Nodup
        rw [map_append, nodup_append]
        refine ⟨inductionHypothesis.nodup, pairwise_singleton .., ?_⟩
        intro listed member other otherMember same
        rw [same, mem_singleton.mp otherMember] at member
        exact fresh member
      · intro entry listed
        change (run.session.withPool source).origins[entry.2]?.map _ = _
        rw [Session.origins_withPool]
        rcases mem_append.mp listed with earlier | last
        · rw [getElem?_append_left]
          · exact inductionHypothesis.origin entry earlier
          · simpa using inductionHypothesis.lt_length_of_mem earlier
        · rw [mem_singleton.mp last]
          simp [Session.origins]
  | removed registered reached inductionHypothesis =>
      exact ⟨inductionHypothesis.nodup.sublist (filter_sublist.map Prod.fst),
        fun entry listed => inductionHypothesis.origin entry (mem_filter.mp listed).1⟩
  | cleared reached inductionHypothesis =>
      exact ⟨nodup_nil, fun entry listed => absurd listed not_mem_nil⟩
  | disposed number reached inductionHypothesis =>
      refine ⟨?_, ?_⟩
      · rw [registry_dispose]
        exact inductionHypothesis.nodup
      · rw [registry_dispose, origins_dispose]
        exact inductionHypothesis.origin
  | taken offered found idle reached inductionHypothesis =>
      refine ⟨inductionHypothesis.nodup, ?_⟩
      rw [origins_take]
      exact inductionHypothesis.origin
  | givenBack reached inductionHypothesis =>
      refine ⟨?_, ?_⟩
      · rw [registry_giveBack]
        exact inductionHypothesis.nodup
      · rw [registry_giveBack, origins_giveBack]
        exact inductionHypothesis.origin
  | kept name reached inductionHypothesis =>
      exact ⟨inductionHypothesis.nodup, inductionHypothesis.origin⟩
  | letGo held reached inductionHypothesis =>
      exact ⟨inductionHypothesis.nodup, inductionHypothesis.origin⟩

/-- Connections are handed out of pools that the step may use. -/
theorem offers_of_checkedOut
    (reached : Reached start run hand own)
    {number : Nat}
    (used : .checkedOut number ∈ run.log) :
    start.Offers number := by
  induction reached with
  | begun server =>
      exact absurd used not_mem_nil
  | noted plain reached inductionHypothesis =>
      rcases mem_append.mp used with earlier | now
      · exact inductionHypothesis earlier
      · exact absurd (plain _ now) Bool.false_ne_true
  | asked source reached inductionHypothesis =>
      exact inductionHypothesis (by simpa [note] using used)
  | opened pool reached inductionHypothesis =>
      exact inductionHypothesis (by simpa [Run.opened, note] using used)
  | built source reached inductionHypothesis =>
      exact inductionHypothesis used
  | added absent reached inductionHypothesis =>
      exact inductionHypothesis used
  | removed registered reached inductionHypothesis =>
      exact inductionHypothesis used
  | cleared reached inductionHypothesis =>
      exact inductionHypothesis used
  | disposed other reached inductionHypothesis =>
      obtain ⟨events, shape, quiet, _⟩ := log_dispose _ other
      rw [shape] at used
      rcases mem_append.mp used with earlier | now
      · exact inductionHypothesis earlier
      · rcases quiet _ now with plain | same
        · exact absurd plain Bool.false_ne_true
        · cases same
  | @taken run hand own other pool offered found idle reached inductionHypothesis =>
      rcases mem_append.mp used with earlier | now
      · exact inductionHypothesis earlier
      · rw [mem_singleton, Event.checkedOut.injEq] at now
        rwa [now]
  | givenBack reached inductionHypothesis =>
      obtain ⟨events, shape, plain⟩ := log_giveBack _ _
      rw [shape] at used
      rcases mem_append.mp used with earlier | now
      · exact inductionHypothesis earlier
      · exact absurd (plain _ now) Bool.false_ne_true
  | kept name reached inductionHypothesis =>
      exact inductionHypothesis used
  | letGo held reached inductionHypothesis =>
      exact inductionHypothesis used

/-- A pool that the step may use, and that was built, is registered or in hand, or was disposed
of. -/
theorem disposed_of_not_registered
    (begun : start.Consistent)
    (reached : Reached start run hand own)
    {number : Nat}
    (offered : start.Offers number)
    (known : number < run.session.origins.length)
    (notOwn : number ∉ own) :
    number ∈ run.session.registry.map Prod.snd ∨ .disposed number ∈ run.log := by
  induction reached with
  | begun server =>
      rcases offered with registered | beyond
      · exact .inl registered
      · rw [Session.length_origins] at known
        exact absurd known (Nat.not_lt.mpr beyond)
  | noted plain reached inductionHypothesis =>
      exact (inductionHypothesis known notOwn).imp_right (mem_append_left _)
  | asked source reached inductionHypothesis =>
      exact (inductionHypothesis known notOwn).imp_right (mem_append_left _)
  | opened pool reached inductionHypothesis =>
      exact (inductionHypothesis known notOwn).imp_right (mem_append_left _)
  | @built run hand own source reached inductionHypothesis =>
      rw [mem_cons, not_or] at notOwn
      rw [Session.origins_withPool, length_append, length_singleton] at known
      refine inductionHypothesis ?_ notOwn.2
      rw [Session.length_origins] at known ⊢
      omega
  | @added run hand own source absent reached inductionHypothesis =>
      change number ∈ (run.session.registry ++ [(source.id, _)]).map Prod.snd ∨ _
      by_cases last : number = run.session.pools.length
      · simp [last]
      · have earlier : number < run.session.origins.length := by
          change number < (run.session.withPool source).origins.length at known
          rw [Session.origins_withPool, length_append, length_singleton] at known
          rw [Session.length_origins] at known ⊢
          omega
        rw [map_append]
        exact (inductionHypothesis earlier notOwn).imp_left (mem_append_left _)
  | @removed run hand own source taken registered reached inductionHypothesis =>
      rw [mem_cons, not_or] at notOwn
      rcases inductionHypothesis known notOwn.2 with listed | disposed
      · left
        obtain ⟨entry, member, same⟩ := mem_map.mp listed
        refine mem_map.mpr ⟨entry, mem_filter.mpr ⟨member, ?_⟩, same⟩
        -- The entry that is taken out has another number.
        have different : entry.1 ≠ source := by
          intro sameSource
          have found : run.session.registered? source = some entry.2 :=
            (reached.consistent begun).registered?_eq_some_iff.mpr (sameSource ▸ member)
          rw [registered, Option.some.injEq] at found
          exact notOwn.1 (same.symm.trans found.symm)
        simpa using different
      · exact .inr disposed
  | cleared reached inductionHypothesis =>
      rw [mem_append, not_or] at notOwn
      rcases inductionHypothesis known notOwn.2 with listed | disposed
      · exact absurd listed notOwn.1
      · exact .inr disposed
  | @disposed run hand own other reached inductionHypothesis =>
      obtain ⟨events, shape, _, recorded⟩ := log_dispose run other
      rw [origins_dispose] at known
      rw [registry_dispose, shape, mem_append]
      by_cases same : number = other
      · rw [same] at known ⊢
        exact .inr (.inr (recorded known))
      · have stillNotOwn : number ∉ own := fun listed =>
          notOwn ((mem_erase_of_ne same).mpr listed)
        exact (inductionHypothesis known stillNotOwn).imp_right .inl
  | @taken run hand own other pool offered found idle reached inductionHypothesis =>
      rw [origins_take] at known
      exact (inductionHypothesis known notOwn).imp_right (mem_append_left _)
  | @givenBack run hand own connection reached inductionHypothesis =>
      obtain ⟨events, shape, _⟩ := log_giveBack run connection
      rw [origins_giveBack] at known
      rw [registry_giveBack, shape]
      exact (inductionHypothesis known notOwn).imp_right (mem_append_left _)
  | kept name reached inductionHypothesis =>
      exact inductionHypothesis known notOwn
  | letGo held reached inductionHypothesis =>
      exact inductionHypothesis known notOwn

end Run.Reached

namespace Session

variable
  (settings : EngineSettings)

theorem Consistent.next
    {session : Session}
    (consistent : session.Consistent)
    (turn : Turn) :
    (session.next settings turn).Consistent := by
  obtain ⟨_, reached⟩ := Run.reached_step session settings turn.server turn.step
  have kept := reached.consistent consistent
  exact kept

theorem Consistent.after
    {session : Session}
    (consistent : session.Consistent)
    (turns : List Turn) :
    (session.after settings turns).Consistent := by
  induction turns generalizing session with
  | nil =>
      exact consistent
  | cons turn turns inductionHypothesis =>
      exact inductionHypothesis (consistent.next settings turn)

/-- Every session that comes of its first step is consistent. -/
theorem consistent_after
    (backend : Backend)
    (bounds : PoolSettings)
    (turns : List Turn) :
    ((start backend bounds).after settings turns).Consistent := by
  have begun : (start backend bounds).Consistent :=
    ⟨nodup_nil, fun entry listed => absurd listed not_mem_nil⟩
  exact begun.after settings turns

/-- A pool that leaves the registry in a step is disposed of in that step, and so is one that is
built in the step and not registered at its end. -/
theorem Consistent.disposed_of_removed
    {session : Session}
    (consistent : session.Consistent)
    (turn : Turn)
    {number : Nat}
    (offered : session.Offers number)
    (known : number < (session.next settings turn).pools.length)
    (removed : number ∉ (session.next settings turn).registry.map Prod.snd) :
    .disposed number ∈ (session.step settings turn.server turn.step).2.2 := by
  obtain ⟨_, reached⟩ := Run.reached_step session settings turn.server turn.step
  have knownOrigin : number < (session.next settings turn).origins.length := by
    rwa [length_origins]
  rcases reached.disposed_of_not_registered consistent offered knownOrigin not_mem_nil with
    registered | disposed
  · exact absurd registered removed
  · exact disposed

/-- A pool that a step may not use cannot be used by any later step either. -/
theorem not_offers_next
    {session : Session}
    {number : Nat}
    (retired : ¬ session.Offers number)
    (turn : Turn) :
    ¬ (session.next settings turn).Offers number := by
  obtain ⟨_, reached⟩ := Run.reached_step session settings turn.server turn.step
  have notListed : number ∉ (session.next settings turn).registry.map Prod.snd :=
    fun listed => retired (reached.offers_of_mem number listed)
  have known : number < session.pools.length :=
    Nat.lt_of_not_le fun beyond => retired (.inr beyond)
  rintro (listed | beyond)
  · exact notListed listed
  · exact absurd (Nat.lt_of_lt_of_le known reached.length_pools_le) (Nat.not_lt.mpr beyond)

/-- No connection is handed out of a pool that is not registered any more. -/
theorem checkedOut_not_mem_replies
    {session : Session}
    {number : Nat}
    (retired : ¬ session.Offers number)
    (turns : List Turn) :
    ∀ reply ∈ session.replies settings turns, .checkedOut number ∉ reply.2 := by
  induction turns generalizing session with
  | nil =>
      exact fun reply listed => absurd listed not_mem_nil
  | cons turn turns inductionHypothesis =>
      intro reply listed
      rcases mem_cons.mp listed with rfl | later
      · obtain ⟨_, reached⟩ := Run.reached_step session settings turn.server turn.step
        exact fun used => retired (reached.offers_of_checkedOut used)
      · exact inductionHypothesis (not_offers_next settings retired turn) reply later

end Session

end QueryGateway
