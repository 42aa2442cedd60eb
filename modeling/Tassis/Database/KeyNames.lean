import Mathlib.Data.List.DropRight
import Tassis.Foundation.Writes
import Tassis.Database.Devices
import Tassis.RedisBroker.Offset

/-! # The keys in Redis

The database and the broker share one keyspace and build the names of their keys
from identity keys, device IDs and topics. No two of the names coincide, and the
name of a device's record can be taken apart again, which is how the registered
devices are listed.
-/

namespace Tassis

namespace RedisBroker

def streamName (topicName : Text) : Text := "topic:\x7b".toList ++ (topicName ++ ['}'])

def offsetName (stream : Text) : Text := "offset:".toList ++ stream

end RedisBroker

namespace Database

open RedisBroker (MessageID streamName offsetName)

/-- How keys and device IDs are written into Redis keys and read back. -/
structure KeyCodec (IdentityKey DeviceID : Type) extends KeyEncoding IdentityKey DeviceID where
  decodeKey : Text → Option IdentityKey
  decode_keyString : ∀ identityKey, decodeKey (keyString identityKey) = some identityKey
  keyString_plain : ∀ identityKey, ∀ special ∈ [':', '{', '}'], special ∉ keyString identityKey
  deviceString_plain : ∀ deviceId, ∀ special ∈ [':', '{', '}'], special ∉ deviceString deviceId

variable {IdentityKey DeviceID : Type}

/-! ## Names -/

/-- What a key is for, with the arguments of the function that builds it. -/
inductive KeyName (IdentityKey DeviceID : Type) where
  | device (identityKey : IdentityKey) (deviceId : DeviceID)
  | oneTimePreKeys (deviceKey : Text)
  | identityDevices (identityKey : IdentityKey)
  | stream (topicName : Text)
  | offset (streamKey : Text)
  | chatNumbers (key : Text) (isHash : key ∈ Redisdb.hashKeys)
  | rateLimit (key : Text) (isInteger : key ∈ Redisdb.integerKeys)

namespace KeyName

variable (codec : KeyCodec IdentityKey DeviceID)

def text : KeyName IdentityKey DeviceID → Text
  | .device identityKey deviceId => Redisdb.deviceKey codec.toKeyEncoding identityKey deviceId
  | .oneTimePreKeys deviceKey => Redisdb.oneTimePreKeysKey deviceKey
  | .identityDevices identityKey => Redisdb.identityDevicesKey codec.toKeyEncoding identityKey
  | .stream topicName => streamName topicName
  | .offset streamKey => offsetName streamKey
  | .chatNumbers key _ => key
  | .rateLimit key _ => key

/-- The first two characters of a name tell what it is for, except among the
keys for chat numbers. -/
def mark : KeyName IdentityKey DeviceID → Text
  | .device _ _ => ['d', 'e']
  | .oneTimePreKeys _ => ['o', 't']
  | .identityDevices _ => ['i', 'd']
  | .stream _ => ['t', 'o']
  | .offset _ => ['o', 'f']
  | .chatNumbers _ _ | .rateLimit _ _ => ['{', 'g']

theorem take_text (name : KeyName IdentityKey DeviceID) : (name.text codec).take 2 = name.mark := by
  have chatKeys : ∀ key ∈ Redisdb.hashKeys ++ Redisdb.integerKeys,
      key.take 2 = ['{', 'g'] := by decide
  cases name with
  | chatNumbers key isHash => exact chatKeys key (List.mem_append_left _ isHash)
  | rateLimit key isInteger => exact chatKeys key (List.mem_append_right _ isInteger)
  | _ => rfl

/-- No two names coincide, whether they are for the same thing or not. -/
theorem text_injective : Function.Injective (text codec) := by
  intro left right equal
  have marks : left.mark = right.mark := by
    rw [← take_text codec left, ← take_text codec right, equal]
  cases left with
  | device identityKey deviceId =>
      cases right with
      | device identityKey' deviceId' =>
          have same := @Redisdb.deviceKey_injective IdentityKey DeviceID codec.toKeyEncoding
            (identityKey, deviceId) (identityKey', deviceId') equal
          cases same
          rfl
      | _ => simp [mark] at marks
  | oneTimePreKeys deviceKey =>
      cases right with
      | oneTimePreKeys deviceKey' =>
          rw [Redisdb.oneTimePreKeysKey_injective equal]
      | _ => simp [mark] at marks
  | identityDevices identityKey =>
      cases right with
      | identityDevices identityKey' => rw [Redisdb.identityDevicesKey_injective equal]
      | _ => simp [mark] at marks
  | stream topicName =>
      cases right with
      | stream topicName' =>
          rw [List.append_cancel_right (List.append_cancel_left equal)]
      | _ => simp [mark] at marks
  | offset streamKey =>
      cases right with
      | offset streamKey' => rw [List.append_cancel_left equal]
      | _ => simp [mark] at marks
  | chatNumbers key isHash =>
      cases right with
      | chatNumbers key' isHash' =>
          cases equal
          rfl
      | rateLimit key' isInteger =>
          exact absurd equal (Redisdb.hashKey_ne_integerKey isHash isInteger)
      | _ => simp [mark] at marks
  | rateLimit key isInteger =>
      cases right with
      | rateLimit key' isInteger' =>
          cases equal
          rfl
      | chatNumbers key' isHash =>
          exact absurd equal.symm (Redisdb.hashKey_ne_integerKey isHash isInteger)
      | _ => simp [mark] at marks

/-- The pattern `device:*` matches the records of devices and nothing else. -/
theorem matches_device_iff (name : KeyName IdentityKey DeviceID) :
    "device:".toList <+: name.text codec ↔
      ∃ identityKey deviceId, name = .device identityKey deviceId := by
  constructor
  · rintro ⟨rest, equal⟩
    have marks := name.take_text codec
    rw [← equal] at marks
    cases name with
    | device identityKey deviceId => exact ⟨identityKey, deviceId, rfl⟩
    | _ => simp [mark] at marks
  · rintro ⟨identityKey, deviceId, rfl⟩
    exact ⟨_, rfl⟩

end KeyName

/-! ## Listing the registered devices -/

namespace Redisdb

/-- `strings.Trim` with the braces as its cutset. -/
def trimBraces (text : Text) : Text :=
  (text.dropWhile (· ∈ ['{', '}'])).rdropWhile (· ∈ ['{', '}'])

/-- The part of a device key that its decoder rejects. -/
inductive AddressError where
  | identityKey
  | deviceId
  deriving DecidableEq, Repr

variable (codec : KeyCodec IdentityKey DeviceID)

/-- The address in a device key. It is absent where a part is indexed out of
range. -/
def parseDeviceKey (deviceKey : Text) : Option (Except AddressError (IdentityKey × DeviceID)) :=
  let parts := deviceKey.splitOn ':'
  match parts[1]? with
  | none => none
  | some keyPart =>
      match codec.decodeKey (trimBraces keyPart) with
      | none => some (.error .identityKey)
      | some identityKey =>
          match parts[2]? with
          | none => none
          | some devicePart =>
              match codec.decodeDevice devicePart with
              | none => some (.error .deviceId)
              | some deviceId => some (.ok (identityKey, deviceId))

/-- The loop over the device keys, with the addresses so far. -/
def collectAddresses : List Text → List (IdentityKey × DeviceID) →
    Option (Except AddressError (List (IdentityKey × DeviceID)))
  | [], result => some (.ok result)
  | deviceKey :: deviceKeys, result =>
      match parseDeviceKey codec deviceKey with
      | none => none
      | some (.error err) => some (.error err)
      | some (.ok address) => collectAddresses deviceKeys (result ++ [address])

/-- `AllRegisteredDevices`, for the keys that `KEYS` lists. -/
def allRegisteredDevices (deviceKeys : List Text) :
    Option (Except AddressError (List (IdentityKey × DeviceID))) :=
  collectAddresses codec deviceKeys []

theorem trimBraces_braced {text : Text} (opening : '{' ∉ text) (closing : '}' ∉ text) :
    trimBraces ('{' :: (text ++ ['}'])) = text := by
  have plain : ∀ character ∈ text, decide (character ∈ ['{', '}']) = false := by
    intro character member
    have notOpening : character ≠ '{' := fun equal => opening (equal ▸ member)
    have notClosing : character ≠ '}' := fun equal => closing (equal ▸ member)
    simp [notOpening, notClosing]
  have ending : ∀ rest : Text, (∀ character ∈ rest, decide (character ∈ ['{', '}']) = false) →
      rest.rdropWhile (· ∈ ['{', '}']) = rest := by
    intro rest plainRest
    rw [List.rdropWhile_eq_self_iff]
    intro nonempty
    simpa using plainRest _ (List.getLast_mem nonempty)
  rw [trimBraces, List.dropWhile_cons_of_pos (by decide)]
  cases text with
  | nil => rfl
  | cons first rest =>
      have firstPlain := plain first List.mem_cons_self
      rw [List.cons_append, List.dropWhile_cons_of_neg (by simpa using firstPlain),
        ← List.cons_append, List.rdropWhile_concat_pos _ _ _ (by decide)]
      exact ending _ plain

/-- Parsing a device key gives back what it was built from. -/
theorem parseDeviceKey_deviceKey (identityKey : IdentityKey) (deviceId : DeviceID) :
    parseDeviceKey codec (deviceKey codec.toKeyEncoding identityKey deviceId) =
      some (.ok (identityKey, deviceId)) := by
  have keyPlain := codec.keyString_plain identityKey
  have braced : ':' ∉ '{' :: (codec.keyString identityKey ++ ['}']) := by
    simp [keyPlain ':' (by simp)]
  have parts : (deviceKey codec.toKeyEncoding identityKey deviceId).splitOn ':' =
      ["device".toList, '{' :: (codec.keyString identityKey ++ ['}']),
        codec.deviceString deviceId] := by
    have joined : deviceKey codec.toKeyEncoding identityKey deviceId =
        "device".toList ++ ':' :: (('{' :: (codec.keyString identityKey ++ ['}'])) ++
          ':' :: codec.deviceString deviceId) := by
      have opening : "device:\x7b".toList = "device".toList ++ [':', '{'] := rfl
      unfold deviceKey deviceKeyFromString
      simp only [opening, List.append_assoc, List.cons_append, List.nil_append]
    have plainStart : ':' ∉ "device".toList := by decide
    rw [joined]
    exact Text.splitOn_triple plainStart braced
      (codec.deviceString_plain deviceId ':' (by simp))
  have trimmed := trimBraces_braced (keyPlain '{' (by simp)) (keyPlain '}' (by simp))
  simp only [parseDeviceKey, parts, List.getElem?_cons_succ, List.getElem?_cons_zero, trimmed,
    codec.decode_keyString, codec.decode_deviceString]

theorem collectAddresses_deviceKeys (addresses result : List (IdentityKey × DeviceID)) :
    collectAddresses codec
        (addresses.map fun address => deviceKey codec.toKeyEncoding address.1 address.2) result =
      some (.ok (result ++ addresses)) := by
  induction addresses generalizing result with
  | nil => simp [collectAddresses]
  | cons address rest induction =>
      rw [List.map_cons, collectAddresses, parseDeviceKey_deviceKey]
      simpa using induction (result ++ [address])

end Redisdb

end Database

end Tassis
