import QuotaWatch.Proofs.Json.Quoted
import QuotaWatch.SessionLog.Line
/-!
**Screening log lines before decoding them.**

A line is decoded only when it holds both quoted markers byte for byte. The screen turns away no
usage line whose strings are written without escapes: the `type` of a line and of its payload
are string values of the document, and in a line with no backslash every string value stands
between quotes among the line's bytes. An escape parts the two: `"event\u005fmsg"` decodes to
the marker's text without holding its bytes, so such a line is a usage event that the screen
turns away.

Main definitions:

* `SessionLog.FromDoc` — a text that is empty or a string value of a document;
* `UsageEvent.decode?` — the full decode of a line, without the screen.

Main results:

* `SessionLog.containsBytes_iff` — the screen's byte search finds exactly the infixes;
* `SessionLog.lineDoc_types` — the `type` of a decoded line, and of its payload, are string
  values of the document;
* `UsageEvent.ofLine?_eq_decode?_of_unescaped` — **the screen turns away no usage line written
  without escapes**;
* `UsageEvent.screen_rejects_escaped_marker` — it turns away one with an escaped marker.
-/

namespace QuotaWatch

open Json SessionLog

namespace SessionLog

theorem containsBytes_iff {hay needle : List UInt8} (hne : needle ≠ []) :
    containsBytes hay needle = true ↔ needle <:+: hay := by
  unfold containsBytes
  split
  · exact absurd rfl hne
  induction hay with
  | nil => simp [containsBytes.go, List.infix_nil, hne]
  | cons b hay ih =>
    rw [containsBytes.go, Bool.or_eq_true, ih, List.isPrefixOf_iff_prefix, List.infix_cons_iff]

/-- Reading a string member keeps the text before or takes the member's string. -/
theorem decodeString_eq {f : Field} {cur a : String} {v : Json}
    (h : Json.decodeString f "string" cur v = .ok a) : a = cur ∨ v = .str a := by
  cases v <;> simp [Json.decodeString] at h
  · exact .inl h.symm
  · exact .inr (by rw [h])

/-- A reader that sets one member of the record from what `x` reads. -/
theorem ok_of_bind_pure {ε α β : Type} {x : Except ε α} {g : α → β} {b : β}
    (h : (do return g (← x)) = Except.ok b) : ∃ a, x = .ok a ∧ g a = b := by
  cases x with
  | error e => cases h
  | ok a => exact ⟨a, rfl, Except.ok.inj h⟩

/-- A text of a decoded record: left at the default, or a string value of the document. -/
def FromDoc (j : Json) (s : String) : Prop := s = "" ∨ HasStr s j

/-- Reading a string member over a text of the document leaves a text of the document. -/
theorem FromDoc.of_decodeString {j v : Json} {f : Field} {cur a : String}
    (hv : v = .str a → HasStr a j) (hcur : FromDoc j cur)
    (h : Json.decodeString f "string" cur v = .ok a) : FromDoc j a := by
  rcases decodeString_eq h with rfl | rfl
  · exact hcur
  · exact .inr (hv rfl)

/-- A text of the document other than the default stands quoted in a line where every string of
the document does. -/
theorem FromDoc.quoted {j : Json} {s : String} {line : List UInt8} (h : FromDoc j s) (hs : s ≠ "")
    (hq : ∀ s, HasStr s j → Quoted s line) : Quoted s line :=
  hq s (h.resolve_left hs)

/-- **The `type` of a decoded payload is a string value of the document** holding it. -/
theorem payloadDoc_type {j v : Json} (hv : ∀ s, HasStr s v → HasStr s j) {f : Field}
    {cur p : PayloadDoc} (hcur : FromDoc j cur.type) (h : PayloadDoc.decode f cur v = .ok p) :
    FromDoc j p.type := by
  refine decodeRecord_inv (fun p : PayloadDoc => FromDoc j p.type) hcur ?_ h
  intro ms hms k w hkw x hx f' acc acc' hacc hr
  simp only [List.mem_cons, List.mem_nil_iff, or_false] at hx
  rcases hx with rfl | rfl
  · -- the payload's own `type`
    obtain ⟨a, ha, rfl⟩ := ok_of_bind_pure hr
    exact hacc.of_decodeString (fun hw => by subst hw; exact hv _ (hms ▸ .obj hkw .str)) ha
  · obtain ⟨a, -, rfl⟩ := ok_of_bind_pure hr
    exact hacc

/-- **The `type` of a decoded line, and of its payload, are string values of the document.** -/
theorem lineDoc_types {j : Json} {d : LineDoc} (h : LineDoc.decode {} {} j = .ok d) :
    FromDoc j d.type ∧ ∀ p, d.payload = some p → FromDoc j p.type := by
  refine decodeRecord_inv (fun d : LineDoc => FromDoc j d.type ∧ ∀ p, d.payload = some p → FromDoc j p.type)
    ⟨.inl rfl, fun p hp => by cases hp⟩ ?_ h
  intro ms hms k v hkv x hx f acc acc' ⟨htype, hpay⟩ hr
  simp only [List.mem_cons, List.mem_nil_iff, or_false] at hx
  rcases hx with rfl | rfl | rfl
  · obtain ⟨a, ha, rfl⟩ := ok_of_bind_pure hr
    exact ⟨htype.of_decodeString (fun hv => by subst hv; exact hms ▸ .obj hkv .str) ha, hpay⟩
  · obtain ⟨a, -, rfl⟩ := ok_of_bind_pure hr
    exact ⟨htype, hpay⟩
  · -- the payload, read over the one before
    obtain ⟨a, ha, rfl⟩ := ok_of_bind_pure hr
    refine ⟨htype, fun p hp => ?_⟩
    unfold decodeOpt at ha
    split at ha
    · cases ha
      cases hp
    · obtain ⟨p', hp', rfl⟩ := ok_of_bind_pure ha
      cases hp
      have hcur : FromDoc j (acc.payload.getD default).type := by
        cases hq : acc.payload with
        | none => exact .inl rfl
        | some q => exact hpay q hq
      exact payloadDoc_type (fun s hs => hms ▸ .obj hkv hs) hcur hp'

end SessionLog

namespace UsageEvent

/-- The usage event of a log line by the full decode alone, without the screen. -/
def decode? (line : List UInt8) : Option UsageEvent := do
  let j ← (Json.parseBytes line).toOption
  let d ← (LineDoc.decode {} {} j).toOption
  if d.type != "event_msg" then none
  let p ← d.payload
  if p.type != "token_count" then none
  let rl ← p.rateLimits
  if d.timestamp = "" then none
  let ts ← Instant.parseRfc3339Loose? d.timestamp
  return ⟨ts, rateLimitOf? rl.primary, rateLimitOf? rl.secondary⟩

/-- Reading a line is the screen, then the full decode. -/
theorem ofLine?_eq (line : List UInt8) : ofLine? line =
    if containsBytes line eventMarker && containsBytes line payloadMarker then decode? line else none := by
  unfold ofLine? decode?
  cases containsBytes line eventMarker && containsBytes line payloadMarker <;> rfl

/-- A line the full decode reads has a document whose line type and payload type are the
markers' texts. -/
theorem decode?_types {line : List UInt8} {e : UsageEvent} (h : decode? line = some e) :
    ∃ j d p, Json.parseBytes line = .ok j ∧ LineDoc.decode {} {} j = .ok d ∧
      d.type = "event_msg" ∧ d.payload = some p ∧ p.type = "token_count" := by
  unfold decode? at h
  cases hj : Json.parseBytes line with
  | error => simp [hj, Except.toOption] at h
  | ok j =>
  cases hd : LineDoc.decode {} {} j with
  | error => simp [hj, hd, Except.toOption] at h
  | ok d =>
  cases hp : d.payload with
  | none => simp [hj, hd, hp, Except.toOption] at h
  | some p =>
  simp only [hj, Except.toOption] at h
  refine ⟨j, d, p, rfl, hd, ?_, hp, ?_⟩
  · by_cases ht : d.type = "event_msg"
    · exact ht
    · simp [hd, ht] at h
  · by_cases ht : p.type = "token_count"
    · exact ht
    · simp [hd, hp, ht] at h

/-- The marker text stands quoted in the line exactly when the marker's bytes do. -/
theorem containsBytes_of_quoted {line : List UInt8} {s : String} (hs : ∀ c ∈ s.toList, 0 < c.toNat ∧ c.toNat < 0x80)
    (hq : Quoted s line) : containsBytes line (0x22 :: (s.toList.map fun c => UInt8.ofNat c.toNat) ++ [0x22]) = true := by
  obtain ⟨raw, hdec, hin⟩ := hq
  rw [containsBytes_iff (by simp), ← Utf8.eq_asc_of_decode hdec hs]
  exact hin

/-- **The screen turns away no usage line written without escapes**: for a line with no
backslash, reading it with the screen gives what the full decode alone gives. -/
theorem ofLine?_eq_decode?_of_unescaped (line : List UInt8) (hline : 0x5C ∉ line) :
    ofLine? line = decode? line := by
  rw [ofLine?_eq]
  cases he : decode? line with
  | none => simp
  | some e =>
    obtain ⟨j, d, p, hj, hd, htype, hp, hptype⟩ := decode?_types he
    obtain ⟨hdt, hpt⟩ := lineDoc_types hd
    have hquoted := parseBytes_quoted hline hj
    -- both types are string values of the document, so both stand quoted among the bytes
    have hev : Quoted "event_msg" line := (htype ▸ hdt).quoted (by decide) hquoted
    have htc : Quoted "token_count" line := (hptype ▸ hpt p hp).quoted (by decide) hquoted
    have h1 := containsBytes_of_quoted (by simp) hev
    have h2 := containsBytes_of_quoted (by simp) htc
    rw [show eventMarker = 0x22 :: ("event_msg".toList.map fun c => UInt8.ofNat c.toNat) ++ [0x22] by
        decide +kernel,
      show payloadMarker = 0x22 :: ("token_count".toList.map fun c => UInt8.ofNat c.toNat) ++ [0x22] by
        decide +kernel, h1, h2]
    rfl

/-- A usage line with its keys in another order and blanks after the colons. -/
def spacedUsageLine : List UInt8 :=
  Utf8.bytesOf ("\x7b\"payload\": \x7b\"rate_limits\": \x7b\x7d, \"type\": \"token_count\"\x7d, " ++
    "\"timestamp\": \"2025-01-15T10:00:00Z\", \"type\": \"event_msg\"\x7d")

theorem spaced_usage_line_read_alike :
    0x5C ∉ spacedUsageLine ∧ (ofLine? spacedUsageLine).isSome = true ∧
      ofLine? spacedUsageLine = decode? spacedUsageLine :=
  ⟨by decide +kernel, by decide +kernel, ofLine?_eq_decode?_of_unescaped _ (by decide +kernel)⟩

/-- A usage line whose line type is written with an escape. -/
def escapedMarkerLine : List UInt8 :=
  Utf8.bytesOf ("\x7b\"type\":\"event\\u005fmsg\",\"timestamp\":\"2025-01-15T10:00:00Z\"," ++
    "\"payload\":\x7b\"type\":\"token_count\",\"rate_limits\":\x7b\x7d\x7d\x7d")

/-- **The screen turns away a usage line with an escaped marker**: the full decode reads an
event from it, the screen does not let it through. -/
theorem screen_rejects_escaped_marker :
    (decode? escapedMarkerLine).isSome = true ∧ (ofLine? escapedMarkerLine).isNone = true := by
  decide +kernel

end UsageEvent

end QuotaWatch
