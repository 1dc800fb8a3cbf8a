import TelemetryLink.Record

/-!
# The binary form of records

A record takes 24 octets: its fields in order, words least significant octet first, the
hardware address as it is. An optional record is one octet `0x00`, or `0x01` and a record.
-/

namespace TelemetryLink.Record

/-- Octets in a record. -/
def size : Nat := 24

/-- Octets in a present optional record. -/
def optionalSize : Nat := 1 + size

/-- The mark of an absent record. -/
def absentMark : UInt8 := 0x00

/-- The mark of a present record. -/
def presentMark : UInt8 := 0x01

/-- The octets of a record. -/
def encode (record : Record) : Bytes :=
  [record.format]
    ++ Bytes.le16 record.temperature.toUInt16
    ++ Bytes.le16 record.humidity
    ++ Bytes.le16 record.pressure
    ++ Bytes.le16 record.accX.toUInt16
    ++ Bytes.le16 record.accY.toUInt16
    ++ Bytes.le16 record.accZ.toUInt16
    ++ Bytes.le16 record.powerInfo
    ++ [record.movementCounter]
    ++ Bytes.le16 record.measurementSeq
    ++ record.mac.bytes

/-- The octets of a present record, mark included. -/
def encodePresent (record : Record) : Bytes :=
  presentMark :: record.encode

/-- The octets of an optional record. -/
def encodeOptional : Option Record → Bytes
  | some record => record.encodePresent
  | none => [absentMark]

/-- The record that exactly 24 octets stand for. -/
def ofFields : Bytes → Option Record
  | [f, t0, t1, h0, h1, p0, p1, x0, x1, y0, y1, z0, z1, i0, i1, c, s0, s1, m0, m1, m2, m3, m4,
      m5] =>
    some {
      format := f
      temperature := (Bytes.ofLe16 t0 t1).toInt16
      humidity := Bytes.ofLe16 h0 h1
      pressure := Bytes.ofLe16 p0 p1
      accX := (Bytes.ofLe16 x0 x1).toInt16
      accY := (Bytes.ofLe16 y0 y1).toInt16
      accZ := (Bytes.ofLe16 z0 z1).toInt16
      powerInfo := Bytes.ofLe16 i0 i1
      movementCounter := c
      measurementSeq := Bytes.ofLe16 s0 s1
      mac := ⟨[m0, m1, m2, m3, m4, m5], rfl⟩ }
  | _ => none

/-- Reads a record that takes the whole input. -/
def decode (bytes : Bytes) : Except ProtocolError Record :=
  match ofFields bytes with
  | some record => .ok record
  | none =>
    if bytes.length < size then .error (.truncatedInput size bytes.length)
    else .error (.trailingBytes (bytes.length - size))

/-- Reads an optional record that takes the whole input. A present record that ends too early is
measured with its mark. -/
def decodeOptional : Bytes → Except ProtocolError (Option Record)
  | [] => .error (.truncatedInput 1 0)
  | mark :: rest =>
    if mark = absentMark then
      if rest = [] then .ok none else .error (.trailingBytes rest.length)
    else if mark = presentMark then
      -- Counts include the mark, which `decode` does not see.
      if rest.length < size then .error (.truncatedInput optionalSize (rest.length + 1))
      else some <$> decode rest
    else .error (.invalidDiscriminant mark)

end TelemetryLink.Record
