import FlowTrace.Proofs.Correlator.Translation

/-!
# Checksums of a NAT that are tokens of other probes

The checksum that a NAT gives a UDP probe may be any word, also the token of another probe that
waits. It is looked up as a token before the changes of the NAT are undone.

- **Which probe** (`Rewritten.resolvesOnly_iff`): an error that quotes what a NAT has made of a
  probe resolves this probe or nothing, unless the checksum is the token of another waiting probe,
  or it is no waiting token and undoing the changes leads to another waiting probe.
- **Main result** (`resolvesOnly_iff_fresh`): where no carry is lost and the families agree, undoing
  the changes leads to no other probe, so that the checksum alone decides.
- **Limits** (`not_resolvesOnly_everywhere`): it may be the token of the probe to the next hop.
-/

namespace FlowTrace

namespace Correlator

/-- A response resolves the given probe or nothing. -/
def ResolvesOnly (c : Correlator) (o : Outstanding) (r : Response) (q : PendingProbe) : Prop :=
  ∀ {now e o'}, c.correlate o r now = some (e, o') →
    e.resolved? = some q.key ∧ Outstanding.Claims o [q] o'

/-- Where all waiting probes belong to one round, an error quotes one of them as a NAT has rewritten
it, under any checksum that this gives. -/
structure Rewritten (c : Config) (src : Address) (o : Outstanding) (r : Response)
    (q : PendingProbe) (p : EncodedProbe) (from_ : Address) (port : UInt16) : Prop where
  checked : c.check = .ok ()
  udp : c.protocol = .udp
  paris : c.multipath = .paris
  ofRound : o.OfRound c src q.round
  waits : q ∈ o.waiting
  sent : (Encoder.ofConfig c (.ofConfig c) src).encode q.flow q.round q.ttl = some p
  family : from_.family = src.family
  quotes : r.QuotesTranslated p from_ port

/-- The token that undoing what a NAT has rewritten leads to on a flow. -/
def undoneToken (c : Config) (src : Address) (p : EncodedProbe) (from_ : Address)
    (port flow : UInt16) : UInt16 :=
  sentChecksum (p.translatedChecksum from_ port) port
    ((ofConfig c src).changedSource (p.translatedQuote 0 from_ port)) (c.keyBase + flow)

theorem resolvesOnly_iff_claim {c : Correlator} {o : Outstanding} {r : Response} {q : PendingProbe}
    (wf : o.WF) : c.ResolvesOnly o r q ↔ ∀ claim, c.claim? o r = some claim → claim.probe = q := by
  constructor
  · intro only claim hc
    have heard : c.correlate o r q.sentAt = some (c.outcome claim r q.sentAt, claim.rest) := by
      simp [correlate, hc]
    have own := (claims_of_claim? wf hc).waiting
    have hsame := own.symm.trans (only heard).2.waiting
    exact List.singleton_perm_singleton.mp ((List.perm_append_right_iff _).mp hsame)
  · intro only now e o' h
    obtain ⟨claim, hc, rfl, rfl⟩ := correlate_eq_some h
    obtain rfl := only claim hc
    exact ⟨resolved?_outcome c claim r now, claims_of_claim? wf hc⟩

section Rewritten

variable {c : Config} {src : Address} {o : Outstanding} {r : Response} {q : PendingProbe}
  {p : EncodedProbe} {from_ : Address} {port : UInt16}

theorem Rewritten.carrier (h : Rewritten c src o r q p from_ port) :
    (FlowPlan.ofConfig c).carrier = .udpChecksum :=
  FlowPlan.carrier_of_paris h.udp h.paris

theorem Rewritten.aimed (h : Rewritten c src o r q p from_ port) :
    (ofConfig c src).aimedAtTarget r = true :=
  aimedAtTarget_of_quotesTranslated h.sent h.quotes

/-- A flow is found where a waiting probe of it has the token that undoing the changes leads to. -/
theorem Rewritten.mem_patchOwners (h : Rewritten c src o r q p from_ port)
    {x : UInt16 × UInt16} : x ∈ (ofConfig c src).patchOwners o r ↔
      ∃ y ∈ o.waiting, x = (y.flow, y.token) ∧
        y.token = undoneToken c src p from_ port y.flow := by
  obtain ⟨left, quoted⟩ := h.quotes.quoted
  exact mem_patchOwners_iff h.carrier h.ofRound quoted rfl rfl
    (p.translatedChecksum_ne_zero from_ port)

/-- Undoing the changes leads to one waiting probe at most. -/
theorem Rewritten.eq_of_undone (h : Rewritten c src o r q p from_ port) {x y : PendingProbe}
    (hx : x ∈ o.waiting) (hy : y ∈ o.waiting)
    (undone : x.token = undoneToken c src p from_ port x.flow)
    (undone' : y.token = undoneToken c src p from_ port y.flow) : x = y := by
  have hb := Config.bounds_of_check h.checked
  have keys := hb.keys
  have flows := hb.flows_le
  -- Token and flow of a probe make up a sum that is known modulo 65535, and smaller.
  have sum (z : PendingProbe) (hz : z ∈ o.waiting)
      (hu : z.token = undoneToken c src p from_ port z.flow) :
      (z.token.toNat + (c.keyBase.toNat + z.flow.toNat) + Checksum.total src.octets) % 65535 =
          ((p.translatedChecksum from_ port).toNat + port.toNat +
            Checksum.total from_.octets) % 65535 ∧
        z.token.toNat + z.flow.toNat < 65535 := by
    have probe := h.ofRound.probe z hz
    obtain ⟨flow_lt, token⟩ := probe.token_eq
    have key := FlowPlan.toNat_keyBase_add hb flow_lt
    have undo : ((undoneToken c src p from_ port z.flow).toNat + (c.keyBase + z.flow).toNat +
          Checksum.total src.octets) % 65535 =
        ((p.translatedChecksum from_ port).toNat + port.toNat +
          Checksum.total from_.octets) % 65535 := sentChecksum_mod _ port _ rfl h.family
    rw [key, ← hu] at undo
    refine ⟨undo, ?_⟩
    have hsmall := probe.ttl_le
    rw [token, FlowPlan.toNat_sequenceToken (by rw [h.carrier]; decide)]
    omega
  have first := sum x hx undone
  have second := sum y hy undone'
  exact eq_of_token_add_flow hb h.carrier h.ofRound hx hy (by omega)

/-- The waiting probe that has the checksum for a token is claimed. -/
theorem Rewritten.claim?_of_token (h : Rewritten c src o r q p from_ port) {x : PendingProbe}
    (hx : x ∈ o.waiting) (token : x.token = p.translatedChecksum from_ port) :
    ∃ o', (ofConfig c src).claim? o r = some ⟨x, false, o'⟩ := by
  have carrier : (FlowPlan.ofConfig c).carrier ≠ .udpPayloadLength := by
    rw [h.carrier]
    decide
  obtain ⟨o', found⟩ := exists_removeNamed (Config.bounds_of_check h.checked) carrier h.ofRound
    h.aimed hx (token.trans h.quotes.token.symm)
  exact ⟨o', claim?_of_removeNamed found⟩

/-- Where no waiting probe has the checksum for a token, the one that undoing the changes leads to
is claimed. -/
theorem Rewritten.claim?_of_undone (h : Rewritten c src o r q p from_ port)
    (hfresh : ∀ y ∈ o.waiting, y.token ≠ p.translatedChecksum from_ port) {x : PendingProbe}
    (hx : x ∈ o.waiting) (undone : x.token = undoneToken c src p from_ port x.flow) :
    ∃ o', (ofConfig c src).claim? o r = some ⟨x, true, o'⟩ := by
  have named : (ofConfig c src).removeNamed o r = none :=
    removeNamed_of_fresh h.ofRound.wf (h.quotes.token ▸ hfresh)
  have owners : (ofConfig c src).patchOwners o r = [(x.flow, x.token)] := by
    obtain ⟨left, quoted⟩ := h.quotes.quoted
    refine Outstanding.eq_singleton_of_mem_iff (nodup_patchOwners
      (Config.bounds_of_check h.checked) h.carrier quoted rfl rfl
      (p.translatedChecksum_ne_zero from_ port)) fun z => ?_
    rw [h.mem_patchOwners]
    constructor
    · rintro ⟨y, hy, rfl, hyu⟩
      rw [h.eq_of_undone hy hx hyu undone]
    · rintro rfl
      exact ⟨x, hx, rfl, undone⟩
  obtain ⟨o', removed⟩ := h.ofRound.wf.exists_remove hx
  exact ⟨o', by simp [claim?, named, h.aimed, removePatched, owners, removed]⟩

/-- Where no waiting probe has the checksum for a token, undoing the changes leads to the probe that
is claimed. -/
theorem Rewritten.undone_of_claim? (h : Rewritten c src o r q p from_ port)
    (hfresh : ∀ y ∈ o.waiting, y.token ≠ p.translatedChecksum from_ port) {claim : Claim}
    (hc : (ofConfig c src).claim? o r = some claim) : claim.probe ∈ o.waiting ∧
      claim.probe.token = undoneToken c src p from_ port claim.probe.flow := by
  have named : (ofConfig c src).removeNamed o r = none :=
    removeNamed_of_fresh h.ofRound.wf (h.quotes.token ▸ hfresh)
  simp only [claim?, named, h.aimed, if_true, Option.map_eq_some_iff] at hc
  obtain ⟨⟨x, o'⟩, patched, rfl⟩ := hc
  unfold removePatched at patched
  split at patched
  case h_2 => cases patched
  rename_i flow token owners
  obtain ⟨hx, rfl, rfl⟩ := h.ofRound.wf.remove_mem patched
  obtain ⟨y, -, hsame, undone⟩ := h.mem_patchOwners.mp (owners ▸ List.mem_singleton_self _)
  simp only [Prod.mk.injEq] at hsame
  exact ⟨hx, by rw [hsame.1, hsame.2, undone]⟩

/-- An error resolves its probe or nothing exactly if its checksum is the token of no other waiting
probe, and undoing the changes does not lead to another one where the checksum is no waiting
token. -/
theorem Rewritten.resolvesOnly_iff (h : Rewritten c src o r q p from_ port) :
    (ofConfig c src).ResolvesOnly o r q ↔ ∀ x ∈ o.waiting, x ≠ q →
      x.token ≠ p.translatedChecksum from_ port ∧
        (x.token = undoneToken c src p from_ port x.flow →
          ∃ y ∈ o.waiting, y.token = p.translatedChecksum from_ port) := by
  rw [resolvesOnly_iff_claim h.ofRound.wf]
  constructor
  · refine fun only x hx other => ⟨fun token => ?_, fun undone => ?_⟩
    · obtain ⟨o', claim⟩ := h.claim?_of_token hx token
      exact other (only _ claim)
    · by_contra fresh
      obtain ⟨o', claim⟩ := h.claim?_of_undone (fun y hy hyt => fresh ⟨y, hy, hyt⟩) hx undone
      exact other (only _ claim)
  · intro apart claim hc
    by_contra other
    -- A name that is known decides; the changes are undone only where it is not.
    by_cases known : ∃ y ∈ o.waiting, y.token = p.translatedChecksum from_ port
    · obtain ⟨y, hy, token⟩ := known
      obtain ⟨o', claim'⟩ := h.claim?_of_token hy token
      obtain rfl := Option.some.inj (claim'.symm.trans hc)
      exact (apart y hy other).1 token
    · obtain ⟨waits, undone⟩ :=
        h.undone_of_claim? (fun y hy hyt => known ⟨y, hy, hyt⟩) hc
      exact known ((apart _ waits other).2 undone)

/-- Where no carry is lost and the families agree, undoing the changes leads to the own probe. -/
theorem Rewritten.eq_of_undoneToken (h : Rewritten c src o r q p from_ port)
    (hs : src.family = c.target.family) (hshort : p.Short) {x : PendingProbe} (hx : x ∈ o.waiting)
    (undone : x.token = undoneToken c src p from_ port x.flow) : x = q := by
  have hb := Config.bounds_of_check h.checked
  obtain ⟨-, ttl_pos, ttl_le, e, sent, token, -⟩ := h.ofRound.probe q h.waits
  obtain rfl : p = e := Option.some.inj (h.sent.symm.trans sent)
  obtain ⟨left, quoted⟩ := h.quotes.quoted
  obtain ⟨quoted', port', seen, hquoted, hport, hseen, -, leads⟩ := leadsTo_of_quotesTranslated hb
    h.carrier hs h.family h.sent ⟨ttl_pos, ttl_le⟩ hshort h.quotes
  obtain rfl := Option.some.inj (quoted.symm.trans hquoted)
  obtain rfl := Option.some.inj hport
  obtain rfl := Option.some.inj hseen
  have sum : (undoneToken c src p from_ port x.flow).toNat + x.flow.toNat =
      p.token.toNat + q.flow.toNat := leads x.flow (h.ofRound.probe x hx).token_eq.1
  exact eq_of_token_add_flow hb h.carrier h.ofRound hx h.waits (by rw [undone, sum, token])

/-- An error that quotes a probe as a NAT has rewritten it resolves this probe or nothing, exactly
if its checksum is the token of no other waiting probe; where carries are lost or the families
differ, undoing the changes must not lead to another probe either. -/
theorem resolvesOnly_iff_fresh (h : Rewritten c src o r q p from_ port) :
    ((ofConfig c src).ResolvesOnly o r q ↔ ∀ x ∈ o.waiting, x ≠ q →
      x.token ≠ p.translatedChecksum from_ port ∧
        (x.token = undoneToken c src p from_ port x.flow →
          ∃ y ∈ o.waiting, y.token = p.translatedChecksum from_ port)) ∧
    (src.family = c.target.family → p.Short →
      ((ofConfig c src).ResolvesOnly o r q ↔
        ∀ x ∈ o.waiting, x ≠ q → x.token ≠ p.translatedChecksum from_ port)) := by
  refine ⟨h.resolvesOnly_iff, fun hs hshort => h.resolvesOnly_iff.trans ?_⟩
  refine forall₃_congr fun x hx other => and_iff_left fun undone => ?_
  exact absurd (h.eq_of_undoneToken hs hshort hx undone) other

end Rewritten

/-! ## A probe to each of two hops -/

/-- A session of two hops. -/
def twoHopConfig : Config :=
  { Config.standard (.ofOctets4 192 0 2 1) .udp 7 with maxTtl := 2 }

/-- Probes to both hops wait, and an error quotes the first one as a NAT has rewritten it. -/
theorem exists_rewritten (port : UInt16) : ∃ (p p' : EncodedProbe) (o : Outstanding),
    (Encoder.ofConfig twoHopConfig (.ofConfig twoHopConfig) insideAddress).encode 0 0 1 = some p ∧
    p.Short ∧ (p.token = 256 ∧ p'.token = 512) ∧
    (∀ x, x ∈ o.waiting ↔ x = p'.pending ∨ x = p.pending) ∧
    Rewritten twoHopConfig insideAddress o
      (p.translatedError (.ofOctets4 10 9 9 1) insideAddress port) p.pending p insideAddress
      port := by
  obtain ⟨p, h⟩ := Encoder.exists_encode twoHopConfig insideAddress
    (by decide : (0 : UInt16).toNat < twoHopConfig.flows.toNat) 0 1
  obtain ⟨p', h'⟩ := Encoder.exists_encode twoHopConfig insideAddress
    (by decide : (0 : UInt16).toNat < twoHopConfig.flows.toNat) 0 2
  have token : p.token = 256 := (Encoder.isProbe_of_encode h).token_eq
  have token' : p'.token = 512 := (Encoder.isProbe_of_encode h').token_eq
  obtain ⟨o, ofRound, waiting⟩ := Outstanding.exists_two h h' (by decide) (by decide)
    fun _ => by rw [token, token']; decide
  exact ⟨p, p', o, h, (Encoder.fits_of_payloadSize h (by decide)).short, ⟨token, token'⟩, waiting,
    { checked := rfl
      udp := rfl
      paris := rfl
      ofRound := ofRound
      waits := (waiting _).mpr (.inr rfl)
      sent := encode_pending h
      family := rfl
      quotes := ⟨rfl, rfl, 1, rfl⟩ }⟩

/-- Under most numbers the probe to the first hop gets a checksum that is no token. -/
theorem resolvesOnly_twoHopConfig : ∃ p o,
    (Encoder.ofConfig twoHopConfig (.ofConfig twoHopConfig) insideAddress).encode 0 0 1 = some p ∧
    (ofConfig twoHopConfig insideAddress).ResolvesOnly o
      (p.translatedError (.ofOctets4 10 9 9 1) insideAddress 61000) p.pending := by
  obtain ⟨p, p', o, h, hshort, ⟨token, token'⟩, waiting, rewritten⟩ := exists_rewritten 61000
  have seen : some 54791 = some (p.translatedChecksum insideAddress 61000) := Eq.trans
    (by decide +kernel) (congrArg (Option.map (·.translatedChecksum insideAddress 61000)) h)
  refine ⟨p, o, h, ((resolvesOnly_iff_fresh rewritten).2 rfl hshort).mpr fun x hx other => ?_⟩
  obtain rfl := ((waiting x).mp hx).resolve_right other
  show p'.token ≠ _
  rw [token', ← Option.some.inj seen]
  decide

/-- A NAT chooses the number under which the checksum of the probe to the first hop is the token of
the probe to the second one. -/
theorem not_resolvesOnly_everywhere :
    ¬ ∀ (c : Config) (src : Address) (o : Outstanding) (r : Response) (q : PendingProbe)
      (p : EncodedProbe) (from_ : Address) (port : UInt16), src.family = c.target.family → p.Short →
      Rewritten c src o r q p from_ port → (ofConfig c src).ResolvesOnly o r q := by
  intro hall
  obtain ⟨p, p', o, h, hshort, ⟨token, token'⟩, waiting, rewritten⟩ := exists_rewritten 49744
  have seen : some 512 = some (p.translatedChecksum insideAddress 49744) := Eq.trans
    (by decide +kernel) (congrArg (Option.map (·.translatedChecksum insideAddress 49744)) h)
  have family : insideAddress.family = twoHopConfig.target.family := rfl
  have only := rewritten.resolvesOnly_iff.mp (hall _ _ _ _ _ _ _ _ family hshort rewritten)
  have other : p'.pending ≠ p.pending := fun hsame =>
    absurd (congrArg PendingProbe.token hsame) (by
      show p'.token ≠ p.token
      rw [token, token']
      decide)
  exact (only p'.pending ((waiting _).mpr (.inl rfl)) other).1 (token'.trans (Option.some.inj seen))

end Correlator

end FlowTrace
