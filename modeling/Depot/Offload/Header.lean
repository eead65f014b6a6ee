import Depot.Message

namespace Depot.Offload

def contentHeader : String := "x-sn-large"

def lengthHeader : String := "x-sn-large-length"

def reserved : List String := [contentHeader, lengthHeader]

def refersToBlob (m : Message) : Bool := m.properties.contains contentHeader

end Depot.Offload
