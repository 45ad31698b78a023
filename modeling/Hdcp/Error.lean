import Mathlib.Data.List.Basic

/-!
# Error codes and exceptions

The three error enumerations of the library and the exceptions that carry them. An exception
built with an argument keeps the argument's text; the category messages, which no modelled
function reads, are left out.
-/

namespace Hdcp

/-- `packet::Errc` — reasons for refusing bytes as a packet. -/
inductive PacketErrc where
  | sopNotFound
  | invalidBufferSize
  | invalidHeaderCrc
  | invalidPayloadCrc
  | invalidProtocolVersion
  | invalidPacketType
  | invalidNumberOfBlock
  | payloadExceedMaxSize
  deriving DecidableEq

/-- `appli::Errc` — errors of the application layer. -/
inductive AppliErrc where
  | kaTimeout
  | dipTimeout
  | requestOverrun
  | requestNotFound
  | invalidCmdAckFormat
  | dataTooBig
  | writeWhileDisconnected
  | connectionFailed
  deriving DecidableEq

/-- `transport::Errc` — errors of the transport layer. -/
inductive TransportErrc where
  | writeQueueFull
  | readQueueFull
  | writeWhileClosed
  | internal
  | other
  deriving DecidableEq

/-- `packet_error` — a refused packet, with the text given to its constructor. -/
structure PacketError where
  /-- The error code. -/
  errc : PacketErrc
  /-- `what_arg`, absent when the constructor takes the code alone. -/
  whatArg : Option String := none
  deriving DecidableEq

/-- Exceptions a transport's `write` raises: its own errors and those of the device below. -/
inductive TransportExn where
  /-- `transport_error`. -/
  | transport (errc : TransportErrc)
  /-- `libusb_error`. -/
  | libusb (code : Int)
  deriving DecidableEq

/-- Every exception the modelled functions raise or let through. -/
inductive Exn where
  /-- `packet_error`. -/
  | packet (error : PacketError)
  /-- `application_error`. -/
  | application (errc : AppliErrc) (whatArg : Option String)
  /-- `transport_error` and `libusb_error`. -/
  | transport (error : TransportExn)
  /-- `asio_error`, with the value of the system error. -/
  | asio (value : Int)
  /-- `std::out_of_range`, raised by `vector::at`. -/
  | outOfRange
  /-- An exception of a callback the user supplied. -/
  | user (tag : Nat)
  deriving DecidableEq

/-- `std::error_code`, by category; the code that is no error is the absence of one. -/
inductive ErrorCode where
  /-- The packet category. -/
  | packet (errc : PacketErrc)
  /-- The application category. -/
  | application (errc : AppliErrc)
  /-- The transport category. -/
  | transport (errc : TransportErrc)
  /-- The usb category. -/
  | usb (code : Int)
  /-- The system's categories. -/
  | system (value : Int)
  deriving DecidableEq

/-- `hdcp_error::code`; other exceptions carry no code. -/
def Exn.code : Exn → Option ErrorCode
  | packet error => some (.packet error.errc)
  | application errc _ => some (.application errc)
  | transport (.transport errc) => some (.transport errc)
  | transport (.libusb code) => some (.usb code)
  | asio value => some (.system value)
  | outOfRange => none
  | user _ => none

end Hdcp
