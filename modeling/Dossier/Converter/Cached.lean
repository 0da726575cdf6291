/-
# A converter that remembers descriptors

Descriptors depend on nothing but the converter's settings, so they are built once for each record
type and kept: those of top-level records apart from those of nested ones, because the same type
has other keys in the other place.  Whenever the settings change, all are forgotten.
-/
import Dossier.Converter.Decode

namespace Dossier

/-- The descriptors that were built so far. -/
structure DescriptorCaches where
  topLevel : DescriptorCache := {}
  nested : DescriptorCache := {}
deriving DecidableEq, Inhabited

/-- A conversion that looks descriptors up, and keeps those it builds even if it fails. -/
abbrev CachedConversion := ExceptT ConversionError (StateM DescriptorCaches)

namespace CachedConversion

/-- The descriptor of a top-level record. -/
def topLevel (c : Converter) (types : Schema) (id : RecordId) : CachedConversion RecordDescriptor :=
  fun caches =>
    let (found, cache) := caches.topLevel.getOrInsert id (c.describe (types id))
    (found, { caches with topLevel := cache })

/-- The descriptor of a nested record. -/
def nested (types : Schema) (id : RecordId) : CachedConversion RecordDescriptor :=
  fun caches =>
    let (found, cache) := caches.nested.getOrInsert id (describeNested (types id))
    (found, { caches with nested := cache })

end CachedConversion

/-- A converter and the descriptors that it remembers. -/
structure CachedConverter where
  converter : Converter
  caches : DescriptorCaches := {}

namespace CachedConverter

/-- Runs a conversion: its result, and the converter after it. -/
def run {α : Type} (s : CachedConverter) (conversion : CachedConversion α) :
    Except ConversionError α × CachedConverter :=
  let (result, caches) := conversion s.caches
  (result, { s with caches })

/-- Changes the settings, and forgets all descriptors. -/
def reconfigure (s : CachedConverter) (change : Converter → Converter) : CachedConverter :=
  { converter := change s.converter }

def describe (s : CachedConverter) (types : Schema) (id : RecordId) :
    Except ConversionError RecordDescriptor × CachedConverter :=
  s.run (CachedConversion.topLevel s.converter types id)

def encode (s : CachedConverter) (types : Schema) (id : RecordId) (values : List Value) :
    Except ConversionError Document × CachedConverter :=
  s.run do
    let descriptor ← CachedConversion.topLevel s.converter types id
    encodeFields types s.converter.rules (CachedConversion.nested types) descriptor values

def decode (s : CachedConverter) (types : Schema) (id : RecordId) (d : Document) :
    Except ConversionError (List Value) × CachedConverter :=
  s.run do
    let descriptor ← CachedConversion.topLevel s.converter types id
    let values ←
      decodeFields types s.converter.rules (CachedConversion.nested types) descriptor.fields d
    MonadExcept.ofExcept ((types id).accept types values)

end CachedConverter

end Dossier
