import CommitSeal.Packet.PublicKey

/-!
# Writing secret keys

A secret key read from elsewhere becomes an OpenPGP secret key by putting its numbers behind the
public part of its packet (`PublicKey.unprotectedSecretBody`), and a certificate becomes a secret
one by replacing the packet of its primary key (`secretCertificate`). Subkeys are dropped then,
because their secret parts are not known.
-/

namespace CommitSeal

/-- The value that a table of named secret parameters gives to a field. -/
def secretValue? (secret : List (String × Octets)) (field : KeyField) : Option Octets :=
  secret.lookup field.name

/-- Secret numbers, one behind the other. -/
def encodeSecretFields (secret : List (String × Octets)) :
    List KeyField → Except PacketError Octets
  | [] => .ok []
  | field :: rest =>
    match Packet.encodeMpi ((secretValue? secret field).getD []) with
    | .error e => .error e
    | .ok number =>
      match encodeSecretFields secret rest with
      | .error e => .error e
      | .ok numbers => .ok (number ++ numbers)

/-- The names of the secret fields of a family that a table lacks. -/
def missingSecretNames (family : KeyFamily) (secret : List (String × Octets)) : List String :=
  (family.secretFields.filter fun field => (secretValue? secret field).isNone).map KeyField.name

/-- The body of an unprotected secret key packet: the public part, a zero octet that says there is
no protection, the secret numbers, and the sum of their octets modulo 65536. -/
def PublicKey.unprotectedSecretBody (key : PublicKey) (secret : List (String × Octets)) :
    Except PacketError Octets :=
  match missingSecretNames key.family secret with
  | [] =>
    match encodeSecretFields secret key.family.secretFields with
    | .error e => .error e
    | .ok numbers => .ok (key.body ++ 0 :: (numbers ++ Octets.ofNat 2 (Octets.sum numbers)))
  | names => .error (.missingSecret names)

/-- The packets of a certificate with its primary key replaced, up to the first subkey or second
primary key. `failure` is what ended the packets. -/
def replacePrimary (secretBody : Octets) (seenPrimary : Bool) (failure : Option PacketError) :
    List Packet → Except PacketError Octets
  | [] =>
    match failure with
    | some e => .error e
    | none => if seenPrimary then .ok [] else .error .noPrimary
  | packet :: rest =>
    if packet.tag = Packet.trustTag then replacePrimary secretBody seenPrimary failure rest
    else if packet.tag = Packet.publicKeyTag then
      if seenPrimary then .ok []
      else
        match replacePrimary secretBody true failure rest with
        | .error e => .error e
        | .ok tail => .ok (Packet.encodeBody Packet.secretKeyTag secretBody ++ tail)
    else if !seenPrimary then .error .primaryNotFirst
    else if packet.tag = Packet.publicSubkeyTag then .ok []
    else
      match replacePrimary secretBody true failure rest with
      | .error e => .error e
      | .ok tail => .ok (packet.encode ++ tail)

/-- A certificate with `secretBody` for its primary key. User IDs and their certifications are
kept; trust packets and subkeys are dropped. -/
def secretCertificate (certificate secretBody : Octets) : Except PacketError Octets :=
  let packets := Packet.frame certificate
  replacePrimary secretBody false packets.failure packets.items

end CommitSeal
