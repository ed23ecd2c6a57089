import Gatehouse.Asn1.ObjectIdentifier

/-! # Names of object identifiers

The names that standards give to object identifiers: the types of directory attributes, the
extensions of certificates, the attributes of signed messages, and algorithms. Only the canonical
bytes of an identifier have its name.
-/

namespace Gatehouse.ObjectIdentifier

/-- Names for the children of an identifier, by their last numbers. -/
def childNames (parent : List Nat) (names : List (Nat × String)) : List (List Nat × String) :=
  names.map fun (n, name) => (parent ++ [n], name)

/-- Types of directory attributes. -/
def attributeTypes : List (List Nat × String) :=
  childNames [2, 5, 4]
    [(0, "objectClass"), (1, "aliasedEntryName"), (2, "knowledgeInformation"), (3, "commonName"),
     (4, "surname"), (5, "serialNumber"), (6, "countryName"), (7, "localityName"),
     (8, "stateOrProvinceName"), (9, "streetAddress"), (10, "organizationName"),
     (11, "organizationalUnit"), (12, "title"), (13, "description"), (14, "searchGuide"),
     (15, "businessCategory"), (16, "postalAddress"), (17, "postalCode"), (41, "name"),
     (42, "givenName"), (43, "initials"), (44, "generationQualifier"), (45, "uniqueIdentifier"),
     (46, "dnQualifier")] ++
  childNames [0, 9, 2342, 19200300, 100, 1] [(1, "uid"), (25, "domainComponent")] ++
  childNames [1, 3, 6, 1, 4, 1, 311, 60, 2, 1]
    [(1, "msJurisdictionLocality"), (2, "msJurisdictionStateOrProvince"),
     (3, "msJurisdictionCountry")]

/-- Extensions of certificates and of revocation lists. -/
def extensions : List (List Nat × String) :=
  childNames [2, 5, 29]
    [(9, "subjectDirectoryAttributes"), (14, "subjectKeyIdentifier"), (15, "keyUsage"),
     (16, "privateKeyUsagePeriod"), (17, "subjectAltName"), (18, "issuerAltName"),
     (19, "basicConstraints"), (20, "crlNumber"), (21, "reasonCode"),
     (23, "holdInstructionCode"), (24, "invalidityDate"), (27, "deltaCRLIndicator"),
     (28, "issuingDistributionPoint"), (29, "certificateIssuer"), (30, "nameConstraints"),
     (31, "crlDistributionPoints"), (32, "certificatePolicies"), (33, "policyMappings"),
     (35, "authorityKeyIdentifier"), (36, "policyConstraints"), (37, "extendedKeyUsage"),
     (46, "freshestCRL"), (54, "inhibitAnyPolicy")] ++
  childNames [1, 3, 6, 1, 5, 5, 7, 1] [(1, "authorityInfoAccess"), (11, "subjectInfoAccess")]

/-- Attributes of signed messages and of requests for certificates. -/
def messageAttributes : List (List Nat × String) :=
  childNames [1, 2, 840, 113549, 1, 9]
    [(1, "emailAddress"), (2, "unstructuredName"), (3, "contentType"), (4, "id-messageDigest"),
     (5, "signing-time"), (7, "challengePassword"), (14, "extensionRequest"),
     (15, "smimeCapabilities"), (20, "friendlyName")]

/-- Keys, signatures, hashes and curves. -/
def algorithms : List (List Nat × String) :=
  childNames [1, 2, 840, 113549, 1, 1]
    [(1, "rsaEncryption"), (2, "md2WithRSAEncryption"), (3, "md4WithRSAEncryption"),
     (4, "md5WithRSAEncryption"), (5, "sha1WithRSAEncryption"), (8, "id-mgf1"),
     (11, "sha256WithRSAEncryption"), (12, "sha384WithRSAEncryption"),
     (13, "sha512WithRSAEncryption"), (14, "sha224WithRSAEncryption")] ++
  childNames [1, 2, 840, 10045, 2] [(1, "id-ecPublicKey")] ++
  childNames [1, 2, 840, 10045, 3, 1] [(7, "prime256v1")] ++
  childNames [1, 2, 840, 10045, 4, 3]
    [(1, "ecdsa-with-SHA224"), (2, "ecdsa-with-SHA256"), (3, "ecdsa-with-SHA384"),
     (4, "ecdsa-with-SHA512")] ++
  childNames [1, 3, 132, 0] [(34, "secp384r1"), (35, "secp521r1")] ++
  childNames [1, 3, 101] [(112, "ed25519"), (113, "ed448")] ++
  childNames [2, 16, 840, 1, 101, 3, 4, 2] [(1, "sha256"), (2, "sha384"), (3, "sha512")]

def nameIn? (names : List (List Nat × String)) (oid : Bytes) : Option String :=
  (names.find? fun entry => ofComponents entry.1 = oid).map Prod.snd

def name? (oid : Bytes) : Option String :=
  nameIn? (attributeTypes ++ extensions ++ messageAttributes ++ algorithms) oid

end Gatehouse.ObjectIdentifier
