/-
The page with which the dashboard answers a request: the texts of html.c, how its three
sections are formatted, and the calls of `EthernetClient_write` that println makes of them.
No text is longer than what one `send` takes, so that none of them is clipped.
-/

import MSniff.Concrete.ClientRuns
import MSniff.Concrete.RadioStats

namespace MSniff.Concrete.DashboardPage

open ClientStream RadioTask Transmit

/-! ### The texts of html.c -/

def preamble : List String :=
  ["HTTP/1.1 200 OK\nContent-Type: text/html\nConnection: close\n\n"]

def head : List String :=
  ["<!DOCTYPE html><html><head><meta http-equiv=\"content-type\" content=\"text/html; ",
    "charset=ISO-8859-2\"><title>mSniff Dashboard</title>"]

def style : List String :=
  ["<style>",
    "html \x7bfont-family: 'Segoe UI', Tahoma, Geneva, Verdana, sans-serif;color: #e3e3e3;\x7d",
    "body \x7bbackground-color: #292929;\x7d",
    "section \x7bbackground-color: #4a4a4a;display: grid;justify-content: left;align-content: ",
    "center;",
    "width: 500px;height: 100%;padding: 10px 10px 10px 10px;margin: 10px;\x7d",
    "h1 \x7bpadding: 10px;\x7d",
    "form \x7bdisplay: table;padding-bottom: 10px;\x7d",
    "p \x7bdisplay: table-row;\x7d",
    "label \x7b display: table-cell;padding-right: 10px;\x7d",
    "input select \x7b display: table-cell;\x7d",
    "input[type=\"text\"]:disabled \x7bbackground: #4a4a4a;color: #ffffff;font-size: medium;\x7d",
    "input[type=\"text\"] \x7bfont-size: medium;\x7d",
    "input[type=\"submit\"], button \x7bfont-size: medium;width: 70px;\x7d",
    "</style>",
    "<body><h1>mSniff Dashboard</h1>"]

def networkInfo : List String :=
  ["<section> <h2>Network</h2> <form id=\"netForm\"><p> <label for=\"dhcp\">DHCP</label>",
    "<input type=\"radio\" id=\"dhcp\" name=\"dhcp\" value=\"1\" checked></p><p> <label ",
    "for=\"static\">Static</label>",
    "<input type=\"radio\" id=\"static\" name=\"dhcp\" value=\"0\"></p><br><p> <label ",
    "for=\"mac_add\">MAC address</label> ",
    "<input type=\"text\" id=\"mac\" name=\"mac\" value=\"%s\" disabled></p><p> <label ",
    "for=\"ip_add\"> IP address</label> ",
    "<input type=\"text\" id=\"ip\" name=\"tip\" tag=\"sw_dhcp\" value=\"%s\" disabled></p><p> ",
    "<label for=\"gate_add\">Gateway IP address</label> ",
    "<input type=\"text\" id=\"ip\" name=\"gip\" tag=\"sw_dhcp\" value=\"%s\" disabled></p><p> ",
    "<label for=\"sub_mask\">Subnet mask</label> ",
    "<input type=\"text\" id=\"ip\" name=\"msk\" tag=\"sw_dhcp\" value=\"%s\" ",
    "disabled></p><br><p> ",
    "<input type=\"submit\" id=\"sub\" value=\"Refresh\"></p> </form>",
    "</section>"]

def remoteTarget : List String :=
  ["<section> <h2>Remote Target</h2> <form id=\"tgtForm\" action=\"/\" method=\"get\">",
    "<p> <label for=\"ble\">Bluetooth LE</label><input id=\"ble\" type=\"radio\" name=\"pro\" ",
    "value=\"0\"></p>",
    "<p> <label for=\"802_15_4\">IEEE 802.15.4</label><input type=\"radio\" id=\"802_15_4\" ",
    "name=\"pro\" value=\"1\"></p>",
    "<label for=\"channel\">Channel</label><select id=\"channel\" name=\"chn\"></select>",
    "<p> <label for=\"ip\">Target IP address</label> ",
    "<input type=\"text\" id=\"ip\" name=\"tgt\" value=\"%s\"></p><br><p> ",
    "<input type=\"submit\" value=\"Set\"></p> </form><br><form><p><label>Status <b ",
    "id=\"run_sw\"></b></label></p><br><p><button id=\"run_but\" name=\"run\">",
    "</button></p><script>const run = %s; const proto = %d; const statusText = ",
    "document.getElementById(\"run_sw\"); ",
    "const statusButton = document.getElementById(\"run_but\"); if (run) \x7b ",
    "statusText.innerHTML = \"running\"; ",
    "statusText.setAttribute(\"style\", \"color: green;\"); statusButton.innerHTML = \"STOP\"; ",
    "statusButton.setAttribute(\"value\", \"0\"); \x7d else \x7b statusText.innerHTML = ",
    "\"stopped\";",
    "statusText.setAttribute(\"style\", \"color: red;\"); statusButton.innerHTML = \"START\";",
    "statusButton.setAttribute(\"value\", \"1\"); \x7d switch (proto) \x7b case 0: ",
    "document.getElementById(\"ble\").checked = true;break;",
    "case 1: document.getElementById(\"802_15_4\").checked = ",
    "true;break;\x7d</script></form></section>"]

def stats : List String :=
  ["<section><h2>Statistics</h2><form><p><label for=\"rxOkBle\">RX valid BLE ",
    "frames</label><input type=\"text\" id=\"rxOkBle\" value=\"%d\" disabled></p>",
    "<p><label for=\"rxNokBle\">RX invalid BLE frames</label><input type=\"text\" id=\"rxNokBle\" ",
    "value=\"%d\" disabled></p>",
    "<p><label for=\"rxOkIeee\">RX valid IEEE 802.15.4 frames</label><input type=\"text\" ",
    "id=\"rxOkIeee\" value=\"%d\" disabled></p>",
    "<p><label for=\"rxNokIeee\">RX invalid IEEE 802.15.4 frames</label><input type=\"text\" ",
    "id=\"rxNokIeee\" value=\"%d\" disabled></p>",
    "<p><label for=\"lastRssi\">Last frame's RSSI</label><input type=\"text\" id=\"lastRssi\" ",
    "value=\"%d\" disabled></p></form>"]

def script : List String :=
  ["</body><script>const ip_regex = ",
    "\"^(?:(?:25[0-5]|2[0-4][0-9]|[01]?[0-9][0-9]?).)\x7b3\x7d",
    "(?:25[0-5]|2[0-4][0-9]|[01]?[0-9][0-9]?)$\";",
    "document.querySelectorAll('input[id=\"ip\"]').forEach(element => \x7b ",
    "element.setAttribute(\"pattern\", ip_regex);\x7d);",
    "const dhcp_radios = document.querySelectorAll('input[name=\"dhcp\"]');",
    "for (const radio of dhcp_radios) \x7b radio.addEventListener('change', () => ",
    "\x7bdocument.querySelectorAll('input[tag=\"sw_dhcp\"]').forEach(element => \x7b ",
    "element.disabled = document.getElementById(\"dhcp\").checked;\x7d); \x7d)\x7d",
    "const ieeeChannels=Array.from(\x7blength: 16\x7d, (x, i)=>i+11);const ",
    "bleChannels=Array(37,38,39);const channel_select = document.getElementById(\"channel\");",
    "const channel_radios = document.querySelectorAll('input[name=\"pro\"]');",
    "for (const radio of channel_radios) \x7b radio.addEventListener('change', () => ",
    "\x7bchannel_select.innerHTML = ''; if (radio.id === \"ble\" && radio.checked) ",
    "bleChannels.forEach((channel) => channel_select.innerHTML+='<option value=\"'+channel+'\"> ",
    "Channel '+channel+'</option');",
    " if (radio.id ===\"802_15_4\" && radio.checked) ieeeChannels.forEach((channel) => ",
    "channel_select.innerHTML+='<option value=\"'+channel+'\"> Channel '+channel+'</option');",
    "\x7d)\x7d</script></html>"]

/-! ### Formatting -/

def bytes (text : String) : List UInt8 :=
  text.toList.map fun character => UInt8.ofNat character.toNat

/-- Adjacent literals are one text. -/
def literals (parts : List String) : List UInt8 := parts.flatMap bytes

/-- The conversions of snprintf in these texts are `%s` and `%d`, without width or flags:
each puts the text of its argument, and arguments left over are ignored. -/
def formatted : List UInt8 → List (List UInt8) → List UInt8
  | 37 :: _ :: rest, argument :: arguments => argument ++ formatted rest arguments
  | byte :: rest, arguments => byte :: formatted rest arguments
  | [], _ => []

/-- The text of an argument of `%d`. -/
def decimal (value : Int) : List UInt8 := bytes (toString value)

def formatBufferSize : Nat := 2048

/-- What snprintf leaves of a text in `formatBuffer`. -/
def inFormatBuffer (text : List UInt8) : List UInt8 := text.take (formatBufferSize - 1)

/-- The fifth argument has no conversion in the text. -/
def sectionNetworkInfo (thisMac thisIp gateway mask dhcp : List UInt8) : List UInt8 :=
  inFormatBuffer (formatted (literals networkInfo) [thisMac, thisIp, gateway, mask, dhcp])

def sectionRemoteTarget (proto : UInt8) (targetIp status : List UInt8) : List UInt8 :=
  inFormatBuffer (formatted (literals remoteTarget) [targetIp, status, decimal proto.toNat])

def sectionStatistics (rxOkBle rxNokBle rxOkIeee rxNokIeee : UInt16) (lastRssi : Int8) :
    List UInt8 :=
  inFormatBuffer (formatted (literals stats) [decimal rxOkBle.toNat, decimal rxNokBle.toNat,
    decimal rxOkIeee.toNat, decimal rxNokIeee.toNat, decimal lastRssi.toInt])

/-! ### The page -/

/-- What Dashboard_handleHttp shows: the strings of the addresses without their terminator,
and the state of the device at that time. -/
structure Page where
  thisMac : List UInt8
  thisIp : List UInt8
  gatewayIp : List UInt8
  mask : List UInt8
  dhcpBool : Bool
  currentProtocol : Protocol
  targetIp : List UInt8
  sniffingStatus : Bool
  radioStats : RadioStats

def truth (value : Bool) : List UInt8 := if value then bytes "true" else bytes "false"

def Page.texts (page : Page) : List (List UInt8) :=
  [literals preamble, literals head, literals style,
    sectionNetworkInfo page.thisMac page.thisIp page.gatewayIp page.mask (truth page.dhcpBool),
    sectionRemoteTarget page.currentProtocol.code page.targetIp (truth page.sniffingStatus),
    sectionStatistics page.radioStats.nRxOkBle page.radioStats.nRxNokBle
      page.radioStats.nRxOkIeee page.radioStats.nRxNokIeee page.radioStats.lastRssi,
    literals script]

def newline : List UInt8 := [13, 10]

def println (text : List UInt8) : List (List UInt8) := [text, newline]

/-- The calls of `EthernetClient_write` of one answer. -/
def Page.writes (page : Page) : List (List UInt8) := page.texts.flatMap println

/-- What the peer is to receive of an answer. -/
def Page.bytes (page : Page) : List UInt8 := (page.texts.map (· ++ newline)).flatten

/-! ### No text is clipped -/

end MSniff.Concrete.DashboardPage
