import DatePattern.Zone.History

/-! Offset histories of zones in the Americas and Hawaii. -/

namespace DatePattern.History

/-- The history of America/New_York. -/
def newYork : History where
  name := "America/New_York"
  offsets := [⟨-17762, 0⟩, ⟨-18000, 0⟩, ⟨-18000, 3600⟩]
  changes := [
    "-2717650800b -1633280400c -1615140000b -1601830800c -1583690400b -1570381200c -1551636000b",
    "-1536512400c -1523210400b -1504458000c -1491760800b -1473008400c -1459706400b -1441558800c",
    "-1428256800b -1410109200c -1396807200b -1378659600c -1365357600b -1347210000c -1333908000b",
    "-1315155600c -1301853600b -1283706000c -1270404000b -1252256400c -1238954400b -1220806800c",
    "-1207504800b -1189357200c -1176055200b -1157302800c -1144605600b -1125853200c -1112551200b",
    "-1094403600c -1081101600b -1062954000c -1049652000b -1031504400c -1018202400b -1000054800c",
    "-986752800b -968000400c -955303200b -936550800c -923248800b -905101200c -891799200b",
    "-880218000c -769395600c -765396000b -747248400c -733946400b -715798800c -702496800b",
    "-684349200c -671047200b -652899600c -639597600b -620845200c -608148000b -589395600c",
    "-576093600b -557946000c -544644000b -526496400c -513194400b -495046800c -481744800b",
    "-463597200c -447271200b -431542800c -415821600b -400093200c -384372000b -368643600c",
    "-352922400b -337194000c -321472800b -305744400c -289418400b -273690000c -257968800b",
    "-242240400c -226519200b -210790800c -195069600b -179341200c -163620000b -147891600c",
    "-131565600b -116442000c -100116000b -84387600c -68666400b -52938000c -37216800b -21488400c",
    "-5767200b 9961200c 25682400b 41410800c 57736800b 73465200c 89186400b 104914800c 120636000b",
    "126687600c 152085600b 162370800c 183535200b 199263600c 215589600b 230713200c 247039200b",
    "262767600c 278488800b 294217200c 309938400b 325666800c 341388000b 357116400c 372837600b",
    "388566000c 404892000b 420015600c 436341600b 452070000c 467791200b 483519600c 499240800b",
    "514969200c 530690400b 544604400c 562140000b 576054000c 594194400b 607503600c 625644000b",
    "638953200c 657093600b 671007600c 688543200b 702457200c 719992800b 733906800c 752047200b",
    "765356400c 783496800b 796806000c 814946400b 828860400c 846396000b 860310000c 877845600b",
    "891759600c 909295200b 923209200c 941349600b 954658800c 972799200b 986108400c 1004248800b",
    "1018162800c 1035698400b 1049612400c 1067148000b 1081062000c 1099202400b 1112511600c",
    "1130652000b 1143961200c 1162101600b"]
  yearly := [⟨1, 3, 8, 25200, 'c'⟩, ⟨1, 11, 1, 21600, 'b'⟩]
  firstYear := 2007
  lastYear := 2099

/-- The history of America/Chicago. -/
def chicago : History where
  name := "America/Chicago"
  offsets := [⟨-21036, 0⟩, ⟨-21600, 0⟩, ⟨-21600, 3600⟩, ⟨-18000, 0⟩]
  changes := [
    "-2717647200b -1633276800c -1615136400b -1601827200c -1583686800b -1563724800c -1551632400b",
    "-1538928000c -1520182800b -1504454400c -1491757200b -1473004800c -1459702800b -1441555200c",
    "-1428253200b -1410105600c -1396803600b -1378656000c -1365354000b -1347206400c -1333904400b",
    "-1315152000c -1301850000b -1283702400c -1270400400b -1252252800c -1238950800b -1220803200c",
    "-1207501200b -1189353600c -1176051600b -1157299200c -1144602000b -1125849600c -1112547600b",
    "-1094400000c -1081098000b -1067788800d -1045414800b -1031500800c -1018198800b -1000051200c",
    "-986749200b -967996800c -955299600b -936547200c -923245200b -905097600c -891795600b",
    "-880214400c -769395600c -765392400b -747244800c -733942800b -715795200c -702493200b",
    "-684345600c -671043600b -652896000c -639594000b -620841600c -608144400b -589392000c",
    "-576090000b -557942400c -544640400b -526492800c -513190800b -495043200c -481741200b",
    "-463593600c -447267600b -431539200c -415818000b -400089600c -384368400b -368640000c",
    "-352918800b -337190400c -321469200b -305740800c -289414800b -273686400c -257965200b",
    "-242236800c -226515600b -210787200c -195066000b -179337600c -163616400b -147888000c",
    "-131562000b -116438400c -100112400b -84384000c -68662800b -52934400c -37213200b -21484800c",
    "-5763600b 9964800c 25686000b 41414400c 57740400b 73468800c 89190000b 104918400c 120639600b",
    "126691200c 152089200b 162374400c 183538800b 199267200c 215593200b 230716800c 247042800b",
    "262771200c 278492400b 294220800c 309942000b 325670400c 341391600b 357120000c 372841200b",
    "388569600c 404895600b 420019200c 436345200b 452073600c 467794800b 483523200c 499244400b",
    "514972800c 530694000b 544608000c 562143600b 576057600c 594198000b 607507200c 625647600b",
    "638956800c 657097200b 671011200c 688546800b 702460800c 719996400b 733910400c 752050800b",
    "765360000c 783500400b 796809600c 814950000b 828864000c 846399600b 860313600c 877849200b",
    "891763200c 909298800b 923212800c 941353200b 954662400c 972802800b 986112000c 1004252400b",
    "1018166400c 1035702000b 1049616000c 1067151600b 1081065600c 1099206000b 1112515200c",
    "1130655600b 1143964800c 1162105200b"]
  yearly := [⟨1, 3, 8, 28800, 'c'⟩, ⟨1, 11, 1, 25200, 'b'⟩]
  firstYear := 2007
  lastYear := 2099

/-- The history of America/Denver. -/
def denver : History where
  name := "America/Denver"
  offsets := [⟨-25196, 0⟩, ⟨-25200, 0⟩, ⟨-25200, 3600⟩]
  changes := [
    "-2717643600b -1633273200c -1615132800b -1601823600c -1583683200b -1570374000c -1551628800b",
    "-1538924400c -1534089600b -880210800c -769395600c -765388800b -147884400c -131558400b",
    "-116434800c -100108800b -84380400c -68659200b -52930800c -37209600b -21481200c -5760000b",
    "9968400c 25689600b 41418000c 57744000b 73472400c 89193600b 104922000c 120643200b 126694800c",
    "152092800b 162378000c 183542400b 199270800c 215596800b 230720400c 247046400b 262774800c",
    "278496000b 294224400c 309945600b 325674000c 341395200b 357123600c 372844800b 388573200c",
    "404899200b 420022800c 436348800b 452077200c 467798400b 483526800c 499248000b 514976400c",
    "530697600b 544611600c 562147200b 576061200c 594201600b 607510800c 625651200b 638960400c",
    "657100800b 671014800c 688550400b 702464400c 720000000b 733914000c 752054400b 765363600c",
    "783504000b 796813200c 814953600b 828867600c 846403200b 860317200c 877852800b 891766800c",
    "909302400b 923216400c 941356800b 954666000c 972806400b 986115600c 1004256000b 1018170000c",
    "1035705600b 1049619600c 1067155200b 1081069200c 1099209600b 1112518800c 1130659200b",
    "1143968400c 1162108800b"]
  yearly := [⟨1, 3, 8, 32400, 'c'⟩, ⟨1, 11, 1, 28800, 'b'⟩]
  firstYear := 2007
  lastYear := 2099

/-- The history of America/Phoenix. -/
def phoenix : History where
  name := "America/Phoenix"
  offsets := [⟨-26898, 0⟩, ⟨-25200, 0⟩, ⟨-25200, 3600⟩]
  changes := [
    "-2717643600b -1633273200c -1615132800b -1601823600c -1583683200b -880210800c -820519140b",
    "-812653140c -796845540b -84380400c -68659200b"]

/-- The history of America/Los_Angeles. -/
def losAngeles : History where
  name := "America/Los_Angeles"
  offsets := [⟨-28378, 0⟩, ⟨-28800, 0⟩, ⟨-28800, 3600⟩]
  changes := [
    "-2717640000b -1633269600c -1615129200b -1601820000c -1583679600b -880207200c -769395600c",
    "-765385200b -687967140c -662655600b -620838000c -608137200b -589388400c -576082800b",
    "-557938800c -544633200b -526489200c -513183600b -495039600c -481734000b -463590000c",
    "-450284400b -431535600c -418230000b -400086000c -386780400b -368636400c -355330800b",
    "-337186800c -323881200b -305737200c -292431600b -273682800c -260982000b -242233200c",
    "-226508400b -210783600c -195058800b -179334000c -163609200b -147884400c -131554800b",
    "-116434800c -100105200b -84376800c -68655600b -52927200c -37206000b -21477600c -5756400b",
    "9972000c 25693200b 41421600c 57747600b 73476000c 89197200b 104925600c 120646800b 126698400c",
    "152096400b 162381600c 183546000b 199274400c 215600400b 230724000c 247050000b 262778400c",
    "278499600b 294228000c 309949200b 325677600c 341398800b 357127200c 372848400b 388576800c",
    "404902800b 420026400c 436352400b 452080800c 467802000b 483530400c 499251600b 514980000c",
    "530701200b 544615200c 562150800b 576064800c 594205200b 607514400c 625654800b 638964000c",
    "657104400b 671018400c 688554000b 702468000c 720003600b 733917600c 752058000b 765367200c",
    "783507600b 796816800c 814957200b 828871200c 846406800b 860320800c 877856400b 891770400c",
    "909306000b 923220000c 941360400b 954669600c 972810000b 986119200c 1004259600b 1018173600c",
    "1035709200b 1049623200c 1067158800b 1081072800c 1099213200b 1112522400c 1130662800b",
    "1143972000c 1162112400b"]
  yearly := [⟨1, 3, 8, 36000, 'c'⟩, ⟨1, 11, 1, 32400, 'b'⟩]
  firstYear := 2007
  lastYear := 2099

/-- The history of America/Anchorage. -/
def anchorage : History where
  name := "America/Anchorage"
  offsets := [⟨50424, 0⟩, ⟨-35976, 0⟩, ⟨-36000, 0⟩, ⟨-36000, 3600⟩, ⟨-32400, 0⟩, ⟨-32400, 3600⟩]
  changes := [
    "-3225223727b -2188951224c -880200000d -769395600d -765378000c -86882400c -21470400d",
    "-5749200c 9979200d 25700400c 41428800d 57754800c 73483200d 89204400c 104932800d 120654000c",
    "126705600d 152103600c 162388800d 183553200c 199281600d 215607600c 230731200d 247057200c",
    "262785600d 278506800c 294235200d 309956400c 325684800d 341406000c 357134400d 372855600c",
    "388584000d 404910000c 420033600d 436359600e 439030800e 452084400f 467805600e 483534000f",
    "499255200e 514983600f 530704800e 544618800f 562154400e 576068400f 594208800e 607518000f",
    "625658400e 638967600f 657108000e 671022000f 688557600e 702471600f 720007200e 733921200f",
    "752061600e 765370800f 783511200e 796820400f 814960800e 828874800f 846410400e 860324400f",
    "877860000e 891774000f 909309600e 923223600f 941364000e 954673200f 972813600e 986122800f",
    "1004263200e 1018177200f 1035712800e 1049626800f 1067162400e 1081076400f 1099216800e",
    "1112526000f 1130666400e 1143975600f 1162116000e"]
  yearly := [⟨1, 3, 8, 39600, 'f'⟩, ⟨1, 11, 1, 36000, 'e'⟩]
  firstYear := 2007
  lastYear := 2099

/-- The history of Pacific/Honolulu. -/
def honolulu : History where
  name := "Pacific/Honolulu"
  offsets := [⟨-37886, 0⟩, ⟨-37800, 0⟩, ⟨-37800, 3600⟩, ⟨-36000, 0⟩]
  changes := [
    "-2334101314b -1157283000c -1155436200b -880198200c -769395600c -765376200b -712150200d"]

/-- The history of America/Halifax. -/
def halifax : History where
  name := "America/Halifax"
  offsets := [⟨-15264, 0⟩, ⟨-14400, 0⟩, ⟨-14400, 3600⟩]
  changes := [
    "-2131645536b -1696276800c -1680469200b -1632074400c -1615143600b -1566763200c -1557090000b",
    "-1535486400c -1524949200b -1504468800c -1493413200b -1472414400c -1461963600b -1440964800c",
    "-1429390800b -1409515200c -1396731600b -1376856000c -1366491600b -1346616000c -1333832400b",
    "-1313956800c -1303678800b -1282507200c -1272661200b -1251057600c -1240088400b -1219608000c",
    "-1207429200b -1188763200c -1175979600b -1157313600c -1143925200b -1124049600c -1113771600b",
    "-1091390400c -1081026000b -1059854400c -1050786000b -1030910400c -1018126800b -999460800c",
    "-986677200b -965592000c -955227600b -935956800c -923173200b -904507200c -891723600b",
    "-880221600c -769395600c -765399600b -747252000c -733950000b -715802400c -702500400b",
    "-684352800c -671050800b -652903200c -639601200b -589399200c -576097200b -557949600c",
    "-544647600b -526500000c -513198000b -495050400c -481748400b -431546400c -418244400b",
    "-400096800c -386794800b -368647200c -355345200b -337197600c -323895600b -242244000c",
    "-226522800b -210794400c -195073200b -179344800c -163623600b -147895200c -131569200b",
    "-116445600c -100119600b -84391200c -68670000b -52941600c -37220400b -21492000c -5770800b",
    "9957600c 25678800b 41407200c 57733200b 73461600c 89182800b 104911200c 120632400b 136360800c",
    "152082000b 167810400c 183531600b 199260000c 215586000b 230709600c 247035600b 262764000c",
    "278485200b 294213600c 309934800b 325663200c 341384400b 357112800c 372834000b 388562400c",
    "404888400b 420012000c 436338000b 452066400c 467787600b 483516000c 499237200b 514965600c",
    "530686800b 544600800c 562136400b 576050400c 594190800b 607500000c 625640400b 638949600c",
    "657090000b 671004000c 688539600b 702453600c 719989200b 733903200c 752043600b 765352800c",
    "783493200b 796802400c 814942800b 828856800c 846392400b 860306400c 877842000b 891756000c",
    "909291600b 923205600c 941346000b 954655200c 972795600b 986104800c 1004245200b 1018159200c",
    "1035694800b 1049608800c 1067144400b 1081058400c 1099198800b 1112508000c 1130648400b",
    "1143957600c 1162098000b"]
  yearly := [⟨1, 3, 8, 21600, 'c'⟩, ⟨1, 11, 1, 18000, 'b'⟩]
  firstYear := 2007
  lastYear := 2099

/-- The history of America/St_Johns. -/
def stJohns : History where
  name := "America/St_Johns"
  offsets := [⟨-12652, 0⟩, ⟨-12652, 3600⟩, ⟨-12600, 0⟩, ⟨-12600, 3600⟩, ⟨-12600, 7200⟩]
  changes := [
    "-2713897748a -1664130548b -1650137348a -1632076148b -1615145348a -1598650148b -1590100148a",
    "-1567286948b -1551565748a -1535837348b -1520116148a -1503782948b -1488666548a -1472333348b",
    "-1457216948a -1440883748b -1425767348a -1409434148b -1394317748a -1377984548b -1362263348a",
    "-1346534948b -1330813748a -1314480548b -1299364148a -1283030948b -1267914548a -1251581348b",
    "-1236464948a -1220131748b -1205015348a -1188682148b -1172960948a -1156627748b -1141511348a",
    "-1125178148b -1110061748a -1096921748c -1093728600d -1078612200c -1061670600d -1048973400c",
    "-1030221000d -1017523800c -998771400d -986074200c -966717000d -954624600c -935267400d",
    "-922570200c -903817800d -891120600c -872368200d -769395600d -765401400c -746044200d",
    "-733347000c -714594600d -701897400c -683145000d -670447800c -651695400d -638998200c",
    "-619641000d -606943800c -589401000d -576099000c -557951400d -544649400c -526501800d",
    "-513199800c -495052200d -481750200c -463602600d -450300600c -431548200d -418246200c",
    "-400098600d -386796600c -368649000d -355347000c -337199400d -323897400c -305749800d",
    "-289423800c -273695400d -257974200c -242245800d -226524600c -210796200d -195075000c",
    "-179346600d -163625400c -147897000d -131571000c -116447400d -100121400c -84393000d",
    "-68671800c -52943400d -37222200c -21493800d -5772600c 9955800d 25677000c 41405400d",
    "57731400c 73459800d 89181000c 104909400d 120630600c 136359000d 152080200c 167808600d",
    "183529800c 199258200d 215584200c 230707800d 247033800c 262762200d 278483400c 294211800d",
    "309933000c 325661400d 341382600c 357111000d 372832200c 388560600d 404886600c 420010200d",
    "436336200c 452064600d 467785800c 483514200d 499235400c 514963800d 530685000c 544591860d",
    "562127460c 576041460e 594178260c 607491060d 625631460c 638940660d 657081060c 670995060d",
    "688530660c 702444660d 719980260c 733894260d 752034660c 765343860d 783484260c 796793460d",
    "814933860c 828847860d 846383460c 860297460d 877833060c 891747060d 909282660c 923196660d",
    "941337060c 954646260d 972786660c 986095860d 1004236260c 1018150260d 1035685860c 1049599860d",
    "1067135460c 1081049460d 1099189860c 1112499060d 1130639460c 1143948660d 1162089060c",
    "1173583860d 1194143460c 1205033460d 1225593060c 1236483060d 1257042660c 1268537460d",
    "1289097060c 1299987060d 1320553800c"]
  yearly := [⟨1, 3, 8, 19800, 'd'⟩, ⟨1, 11, 1, 16200, 'c'⟩]
  firstYear := 2012
  lastYear := 2099

/-- The history of America/Sao_Paulo. -/
def saoPaulo : History where
  name := "America/Sao_Paulo"
  offsets := [⟨-11188, 0⟩, ⟨-10800, 0⟩, ⟨-10800, 3600⟩]
  changes := [
    "-1767214412b -1206957600c -1191362400b -1175374800c -1159826400b -633819600c -622069200b",
    "-602283600c -591832800b -570747600c -560210400b -539125200c -531352800b -195426000c",
    "-184197600b -155163600c -150069600b -128898000c -121125600b -99954000c -89589600b",
    "-68418000c -57967200b 499748400c 511236000b 530593200c 540266400b 562129200c 571197600b",
    "592974000c 602042400b 624423600c 634701600b 656478000c 666756000b 687927600c 697600800b",
    "719982000c 728445600b 750826800c 761709600b 782276400c 793159200b 813726000c 824004000b",
    "844570800c 856058400b 876106800c 888717600b 908074800c 919562400b 938919600c 951616800b",
    "970974000c 982461600b 1003028400c 1013911200b 1036292400c 1045360800b 1066532400c",
    "1076810400b 1099364400c 1108864800b 1129431600c 1140314400b 1162695600c 1172368800b",
    "1192330800c 1203213600b 1224385200c 1234663200b 1255834800c 1266717600b 1287284400c",
    "1298167200b 1318734000c 1330221600b 1350788400c 1361066400b 1382238000c 1392516000b",
    "1413687600c 1424570400b 1445137200c 1456020000b 1476586800c 1487469600b 1508036400c",
    "1518919200b 1541300400c 1550368800b"]

/-- The history of America/Caracas. -/
def caracas : History where
  name := "America/Caracas"
  offsets := [⟨-16064, 0⟩, ⟨-16060, 0⟩, ⟨-16200, 0⟩, ⟨-14400, 0⟩]
  changes := [
    "-2524505536b -1826739140c -157750200d 1197183600c 1462086000d"]

/-- The history of America/Havana. -/
def havana : History where
  name := "America/Havana"
  offsets := [⟨-19768, 0⟩, ⟨-19776, 0⟩, ⟨-18000, 0⟩, ⟨-18000, 3600⟩]
  changes := [
    "-2524501832b -1402813824c -1311534000d -1300996800c -933534000d -925675200c -902084400d",
    "-893620800c -870030000d -862171200c -775681200d -767822400c -744231600d -736372800c",
    "-144702000d -134251200c -113425200d -102542400c -86295600d -72907200c -54154800d -41457600c",
    "-21495600d -5774400c 9954000d 25675200c 41403600d 57729600c 73458000d 87364800c 104907600d",
    "118900800c 136357200d 150436800c 167806800d 183528000c 199256400d 215582400c 230706000d",
    "247032000c 263365200d 276667200c 290581200d 308721600c 322030800d 340171200c 358318800d",
    "371620800c 389768400d 403070400c 421218000d 434520000c 452667600d 466574400c 484117200d",
    "498024000c 511333200d 529473600c 542782800d 560923200c 574837200d 592372800c 606286800d",
    "623822400c 638946000d 655876800c 671000400d 687330000c 702450000d 718779600c 733899600d",
    "750229200c 765349200d 781678800c 796798800d 813128400c 828853200d 844578000c 860302800d",
    "876632400c 891147600d 909291600c 922597200d 941346000c 954651600d 972795600c 986101200d",
    "1004245200c 1018155600d 1035694800c 1049605200d 1067144400c 1080450000d 1162098000c",
    "1173589200d 1193547600c 1205643600d 1224997200c 1236488400d 1256446800c 1268542800d",
    "1288501200c 1300597200d 1321160400c 1333256400d 1352005200c"]
  yearly := [⟨1, 3, 8, 18000, 'd'⟩, ⟨1, 11, 1, 18000, 'c'⟩]
  firstYear := 2013
  lastYear := 2099

/-- The history of EST. -/
def est : History where
  name := "EST"
  offsets := [⟨-19088, 0⟩, ⟨-19176, 0⟩, ⟨-18000, 0⟩]
  changes := [
    "-2524502512b -1946918424c"]

/-- The history of Etc/GMT+5. -/
def gmtMinusFive : History where
  name := "Etc/GMT+5"
  offsets := [⟨-18000, 0⟩]
  changes := []

/-- The histories of zones in the Americas and Hawaii. -/
def americas : List History :=
  [newYork, chicago, denver, phoenix, losAngeles, anchorage, honolulu, halifax, stJohns,
    saoPaulo, caracas, havana, est, gmtMinusFive]

end DatePattern.History
