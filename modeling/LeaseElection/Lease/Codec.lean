import LeaseElection.Lease.Record
import LeaseElection.Lock.Error
import LeaseElection.Time.Rfc3339

namespace LeaseElection.LeaseRecord

open LeaseElection.Json

def json (r : LeaseRecord) : Value :=
  .object [
    ("holder_identity", .string r.holder),
    ("lease_duration_seconds", .natural r.leaseSeconds.toNat),
    ("acquire_time", .string (Rfc3339.text r.acquireTime)),
    ("renew_time", .string (Rfc3339.text r.renewTime)),
    ("leader_transitions", .natural r.transitions.toNat)]

def encode (r : LeaseRecord) : String := r.json.text

/-- A record while it is being read. -/
structure Draft where
  holder : Option String
  leaseSeconds : Option UInt64
  acquireTime : Option Instant
  renewTime : Option Instant
  transitions : Option UInt64

def wordReader : Reader UInt64 := do return UInt64.ofNat (← Reader.natural 64 "u64")

def timeReader : Reader Instant :=
  Reader.stringMeaning "an RFC 3339 formatted date and time string" fun s =>
    (Rfc3339.read s.toList).mapError Rfc3339.Fault.message

def shape : Reader.Shape Draft where
  expected := "struct LeaseRecord"
  expectedLength := "struct LeaseRecord with 5 elements"
  closed := false
  empty := ⟨none, none, none, none, none⟩
  fields := [
    ⟨"holder_identity", true, fun d => d.holder.isSome, fun d => do
      return { d with holder := some (← Reader.string) }⟩,
    ⟨"lease_duration_seconds", false, fun d => d.leaseSeconds.isSome, fun d => do
      return { d with leaseSeconds := some (← wordReader) }⟩,
    ⟨"acquire_time", false, fun d => d.acquireTime.isSome, fun d => do
      return { d with acquireTime := some (← timeReader) }⟩,
    ⟨"renew_time", false, fun d => d.renewTime.isSome, fun d => do
      return { d with renewTime := some (← timeReader) }⟩,
    ⟨"leader_transitions", true, fun d => d.transitions.isSome, fun d => do
      return { d with transitions := some (← wordReader) }⟩]

def Draft.record (d : Draft) : LeaseRecord :=
  ⟨d.holder.getD "", d.leaseSeconds.getD 0, d.acquireTime.getD default, d.renewTime.getD default,
    d.transitions.getD 0⟩

def reader : Reader LeaseRecord := Reader.structure? shape fun d => .ok d.record

def decodeGlyphs (text : List Text.Glyph) : Except StoreError LeaseRecord :=
  (Reader.decode reader text).mapError fun fault => .codec ("decode failed: " ++ fault.message)

def decode (text : String) : Except StoreError LeaseRecord := decodeGlyphs (Text.glyphs text)

def decodeBytes (bytes : List UInt8) : Except StoreError LeaseRecord :=
  decodeGlyphs (Text.glyphsOfBytes bytes)

end LeaseElection.LeaseRecord
