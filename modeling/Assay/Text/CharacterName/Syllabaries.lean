/-! # Names of characters: syllabaries

Scripts of East Asia, Africa and the Philippines, and forms of letters for compatibility.
-/

namespace Assay.Text.CharacterName

def syllabariesLines : List String :=
  ["^3000&kcuy*dw*ifvh&DITTOnm&laINDUSTRIAL STANDARDvw&kckxnm*CLOSINGnm*pgzw&mhatcm&sgatcm",
   "&mhfxatcm&sgfxatcm&mhefcm&sgefcm&mhzdefcm&sgzdefcm&mhcgmocm&sgcgmocm&POSTALnm&GETAnm&mhxltzcm",
   "&sgxltzcm&mhzdmocm&sgzdmocm&mhzdxltzcm&sgzdxltzcm&mhzdvccm&sgzdvccm&yzey&sdfxrgrunm&fxrgrunm",
   "&nbfxrgrunm&POSTALnmhh&HANGZHOUphpt+yb+wy+ib+hu+um+to+gi+or&kcLEVELxfnm*snxfnm*DEPARTINGxfnm",
   "*ENTERINGxfnm&jiukftxfnm*fxftxfnm&WAVYey&ypKANA REPEATnm,zeyvuwnm,nmyiiy,zeyvuwnmyiiy,nmnciy",
   "&dnPOSTALnm&kcTELEGRAPHmtFEEDtnvw&HANGZHOUphwk+ya+wv&ypkckxnm&MASUnm&PART ALTERNATIONnm",
   "&kcVARIATIONki*iyhouy^3041&jtmqusA+A+usI+I+usU+U+usE+E+usO+O+le+ig+KI+GI+KU+GU+KE+GE+KO+GO+sx",
   "+zr+SI+ZI+SU+ZU+SE+ZE+SO+ZO+vx+es+TI+DI+usTU+TU+DU+wf+DE+xe+DO+ok+NI+NU+NE+ov+iw+bm+qh+HI+BI",
   "+qw+HU+BU+PU+jk+BE+qq+HO+BO+PO+nf+MI+of+ME+MO+uszj+zj+uszp+zp+usYO+YO+rv+RI+RU+RE+RO+usyx+yx",
   "+WI+WE+WO+N+VU+usle,KE^3099&dvlmyvuwnm+SEMI-VOICEDuwnm&lmyvuwnm*SEMI-VOICEDuwnm&jtkxnm*yvkxnm",
   "*fpYORI&lmfxjz&llmqusA+A+usI+I+usU+U+usE+E+usO+O+le+ig+KI+GI+KU+GU+KE+GE+KO+GO+sx+zr+SI+ZI+SU",
   "+ZU+SE+ZE+SO+ZO+vx+es+TI+DI+usTU+TU+DU+wf+DE+xe+DO+ok+NI+NU+NE+ov+iw+bm+qh+HI+BI+qw+HU+BU+PU",
   "+jk+BE+qq+HO+BO+PO+nf+MI+of+ME+MO+uszj+zj+uszp+zp+usYO+YO+rv+RI+RU+RE+RO+usyx+yx+WI+WE+WO+N+VU",
   "+usle,KE+ym+VI+VE+VO*ntft&lmPROLONGEDuwnm&llkxnm*yvkxnm*fpKOTO^3105&BOPOMOFOmqB+P+M+F+D+T+N+L",
   "+G+K+H+J+Q+X+ZH+CH+SH+R+Z+C+S+A+O+E+EH+ag+EI+bj+OU+ar+gq+ANG+ENG+ER+I+U+IU+V+NG+GN+IH+Ozeftad",
   "+NN^3131&jimqls+SSANGKIYEOK+KIYEOK-SIOS+NIEUN+NIEUN-CIEUC+NIEUN-HIEUH+xb+SSANGTIKEUT+RIEUL+sf",
   "+RIEUL-MIEUM+RIEUL-PIEUP+RIEUL-SIOS+RIEUL-THIEUTH+RIEUL-PHIEUPH+RIEUL-HIEUH+MIEUM+PIEUP",
   "+SSANGPIEUP+PIEUP-SIOS+SIOS+SSANGSIOS+IEUNG+CIEUC+SSANGCIEUC+dl+lp+wr+qv+HIEUH+A+AE+zj+YAE+EO",
   "+E+YEO+YE+O+yx+WAE+pm+YO+U+WEO+WE+WI+zp+EU+YI+I*hp*mqSSANGNIEUN+NIEUN-TIKEUT+NIEUN-SIOS",
   "+NIEUN-PANSIOS+RIEUL-KIYEOK-SIOS+RIEUL-TIKEUT+RIEUL-PIEUP-SIOS+RIEUL-PANSIOS+RIEUL-YEORINHIEUH",
   "+MIEUM-PIEUP+MIEUM-SIOS+MIEUM-PANSIOS+KAPYEOUNMIEUM+PIEUP-KIYEOK+PIEUP-TIKEUT",
   "+PIEUP-SIOS-KIYEOK+PIEUP-SIOS-TIKEUT+PIEUP-CIEUC+PIEUP-THIEUTH+KAPYEOUNPIEUP",
   "+KAPYEOUNSSANGPIEUP+SIOS-KIYEOK+SIOS-NIEUN+SIOS-TIKEUT+SIOS-PIEUP+SIOS-CIEUC+PANSIOS",
   "+SSANGIEUNG+YESIEUNG+YESIEUNG-SIOS+YESIEUNG-PANSIOS+KAPYEOUNPHIEUPH+SSANGHIEUH+YEORINHIEUH",
   "+YO-YA+YO-YAE+YO-I+YU-YEO+YU-YE+YU-I+ARAEA+ARAEAE^3190&kcANNOTATION LINKINGnm+scnm+ptnm+ybnm",
   "+wynm+ibnm+xknm+ntnm+cknm+FIRSTnm+SECONDnm+wsnm+FOURTHnm+HEAVENnm+genm+nlnm&BOPOMOFOmqBU+ZI+JI",
   "+GU+gg+ENN+pu+ONN+IR+ANN+INN+UNN+IM+NGG+AINN+AUNN+AM+OM+ONG+INNN*hqmqP,T,K,H*mqGH+LH+ZY*hqmqG",
   "*mqGW+KW+pm+AH&CJKvjT+WG+XG+BXG+SW+HZZ+HZG+HP+HZWG+SZWG+HZT+HZZP+HPWG+HZW+HZZZ+N+H+S+P+SP+D+HZ",
   "+HG+SZ+SWZ+ST+SG+PD+PZ+TN+SZZ+SWG+HXWG+HZZZG+PG+Q^31F0&llmqusKU,SI,SU,xe,NU,iw,HI,HU,jk,HO,of",
   ",rv,RI,RU,RE,RO&qnjils+NIEUN+xb+RIEUL+MIEUM+PIEUP+SIOS+IEUNG+CIEUC+dl+lp+wr+qv+HIEUH+lsA",
   "+NIEUN A+xbA+RIEUL A+MIEUM A+PIEUP A+SIOS A+IEUNG A+CIEUC A+dlA+lpA+wrA+qvA+HIEUH A+CIEUC U",
   "*KOREANdfOJEON,O HU^3220*IDEOGRAPHpt+yb+wy+ib+hu+um+to+gi+or+wk+nz+FIRE+yy+WOOD+METAL+ge+SUN",
   "+STOCK+HAVE+SOCIETY+NAME+SPECIAL+FINANCIAL+CONGRATULATION+LABOR+REPRESENT+CALL+STUDY+SUPERVISE",
   "+ENTERPRISE+RESOURCE+ALLIANCE+FESTIVAL+sa+SELF+REACH&dnIDEOGRAPHrt+KINDERGARTEN+SCHOOL+KOTO",
   "*pgwkpscgvc+yapscgvc+wvpscgvc+hzpscgvc+hnpscgvc+uppscgvc+tqpscgvc+gmpscgvc&PARTNERSHIPuh",
   "&dnpgyapt,yb,wy,ib,hu,um,to,gi,or+wv,pt,yb,wy,ib,hu*jils+NIEUN+xb+RIEUL+MIEUM+PIEUP+SIOS+IEUNG",
   "+CIEUC+dl+lp+wr+qv+HIEUH+lsA+NIEUN A+xbA+RIEUL A+MIEUM A+PIEUP A+SIOS A+IEUNG A+CIEUC A+dlA",
   "+lpA+wrA+qvA+HIEUH A*KOREANdfCHAMKO,JUEUI*jiIEUNG U&KOREAN STANDARDvw&dnIDEOGRAPHpt+yb+wy+ib",
   "+hu+um+to+gi+or+wk+nz+FIRE+yy+WOOD+METAL+ge+SUN+STOCK+HAVE+SOCIETY+NAME+SPECIAL+FINANCIAL",
   "+CONGRATULATION+LABOR+SECRET+MALE+FEMALE+SUITABLE+EXCELLENT+PRINT+ATTENTION+ITEM+sa+COPY",
   "+CORRECT+jr+dc+nb+mh+sg+MEDICINE+RELIGION+STUDY+SUPERVISE+ENTERPRISE+RESOURCE+ALLIANCE+NIGHT",
   "*pgwvum,to,gi,or+hz,pt,yb,wy,ib,hu,um,to,gi,or+hn&kcTELEGRAPHvwhxJANUARY:FEBRUARY:MARCH:APRIL",
   ":MAY:JUNE:JULY:AUGUST:SEPTEMBER:OCTOBER:NOVEMBER:DECEMBER&vcHG*ERG*EV&LIMITED LIABILITYuh",
   "&dnllA+I+U+E+O+le+KI+KU+KE+KO+sx+SI+SU+SE+SO+vx+TI+TU+wf+xe+ok+NI+NU+NE+ov+iw+HI+HU+jk+HO+nf",
   "+MI+of+ME+MO+zj+zp+YO+rv+RI+RU+RE+RO+yx+WI+WE+WO&vcERA NAME REIWA*APAATO*ARUHUA*ANPEA*AARU",
   "*ININGU*INTI*UON*ESUKUUDO*EEKAA*ONSU*OOMU*KAIRI*KARATTO*KARORII*GARON*GANMA*GIGA*GINII*KYURII",
   "*GIRUDAA*KIRO*KIROGURAMU*KIROMEETORU*KIROWATTO*GURAMU*GURAMUTON*KURUZEIRO*KUROONE*KEESU*KORUNA",
   "*KOOPO*SAIKURU*SANTIIMU*SIRINGU*SENTI*SENTO*DAASU*DESI*DORU*TON*NANO*NOTTO*HAITU*PAASENTO",
   "*PAATU*BAARERU*PIASUTORU*PIKURU*PIKO*BIRU*HUARADDO*HUIITO*BUSSYERU*HURAN*HEKUTAARU*PESO*PENIHI",
   "*HERUTU*PENSU*PEEZI*BEETA*POINTO*BORUTO*HON*PONDO*HOORU*HOON*MAIKURO*MAIRU*MAHHA*MARUKU",
   "*MANSYON*MIKURON*MIRI*MIRIBAARU*MEGA*MEGATON*MEETORU*YAADO*YAARU*YUAN*RITTORU*RIRA*RUPII",
   "*RUUBURU*REMU*RENTOGEN*WATTO&kcTELEGRAPHvwhxHOURzw;pt;yb;wy;ib;hu;um;to;gi;or;wk;go;xz;wu;ic",
   ";hm;un;tp;gj;os;ya;TWENTY-ONE;TWENTY-TWO;TWENTY-THREE;TWENTY-FOUR&vcHPA*es*bj*bt*OV*PC*DM+vd",
   "+CUBED*IU*ERA NAME HEISEI,SYOUWA,TAISYOU,MEIZI*CORPORATION*qhAMPS*ok*ofA*nf*le*KB*MB*GB*CAL",
   "*KCAL*PF*NF*ofF+G*MG*KG*HZ*KHZ*MHZ*GHZ*THZ*ofL*ML*DL*KL*FM*NM*ofM*MM*CM*KM*MMvd*CMvd*Mvd*KMvd",
   "*MM CUBED*CM CUBED*M CUBED*KM CUBED*MqcS:vd*qh*KPA*MPA*GPA*RAD+qcS:vd*PS*NS*ofS*MS*PV*NV*ofV",
   "*MV*KV*MV MEGA*PW*NW*ofW*MW*KW*MW MEGA*K OHM*M OHM*AM*BQ*CC*CD*CqcKG*CO*DB*GY*iw*HP*kf*KK*KMcv",
   "*KT*LM*LN*LOG*LX*MBus*MIL*MOL*PH*PM*PPM*PR*SR*SV*WB*VqcM*AqcM&kcTELEGRAPHvwhxDAYpt;yb;wy;ib;hu",
   ";um;to;gi;or;wk;go;xz;wu;ic;hm;un;tp;gj;os;ya;TWENTY-ONE;TWENTY-TWO;TWENTY-THREE;TWENTY-FOUR",
   ";TWENTY-FIVE;TWENTY-SIX;TWENTY-SEVEN;TWENTY-EIGHT;TWENTY-NINE;wv;THIRTY-ONE&vcGAL",
   "^4DC0&HEXAGRAMhxwnCREATIVE HEAVEN,RECEPTIVEge+DIFFICULTY ATwnBEGINNING+YOUTHFUL FOLLY+WAITING",
   "+CONFLICT+wnARMY+HOLDING TOGETHER+usTAMING+TREADING+PEACE+STANDSTILL+FELLOWSHIP",
   "+GREAT POSSESSION+MODESTY+ENTHUSIASM+FOLLOWING+WORKpswnDECAYED+APPROACH+CONTEMPLATION+BITINGwz",
   "+GRACE+SPLITTING APART+RETURN+INNOCENCE+GREAT TAMING+obCORNERS+GREAT PREPONDERANCE+wnABYSMALyy",
   ",CLINGING FIRE+INFLUENCE+DURATION+RETREAT+GREAT POWER+PROGRESS+DARKENINGpnwnms+wnFAMILY",
   "+OPPOSITION+OBSTRUCTION+DELIVERANCE+DECREASE+INCREASE+BREAKTHROUGH+COMINGxeMEET",
   "+GATHERING TOGETHER+PUSHING UPWARD+OPPRESSION+wnWELL+REVOLUTION+wnCAULDRON,AROUSING THUNDER",
   ",KEEPING STILLoa+DEVELOPMENT+wnMARRYING MAIDEN+ABUNDANCE+wnWANDERER,GENTLE WIND,JOYOUS LAKE",
   "+DISPERSION+LIMITATION+INNER TRUTH+usPREPONDERANCE+AFTER COMPLETION+BEFORE COMPLETION",
   "^A000&YIvvIT+IX+I+IP+IET+IEX+IE+IEP+AT+AX+A+AP+UOX+UO+UOP+OT+OX+O+OP+EX+E+WU+BIT+BIX+BI+BIP",
   "+BIET+BIEX+BIE+BIEP+BAT+BAX+bm+BAP+BUOX+BUO+BUOP+BOT+cl+BO+BOP+BEX+BE+BEP+BUT+BUX+BU+BUP+BURX",
   "+BUR+BYT+BYX+BY+BYP+BYRX+BYR+PIT+PIX+qw+PIP+PIEX+PIE+PIEP+PAT+PAX+qh+PAP+PUOX+PUO+PUOP+POT+POX",
   "+PO+POP+PUT+PUX+PU+PUP+PURX+PUR+PYT+PYX+PY+PYP+PYRX+PYR+BBIT+BBIX+BBI+BBIP+BBIET+BBIEX+BBIE",
   "+BBIEP+BBAT+BBAX+BBA+BBAP+BBUOX+BBUO+BBUOP+BBOT+BBOX+BBO+BBOP+BBEX+BBE+BBEP+BBUT+BBUX+BBU+BBUP",
   "+BBURX+BBUR+BBYT+BBYX+BBY+BBYP+NBIT+NBIX+NBI+NBIP+NBIEX+NBIE+NBIEP+NBAT+NBAX+NBA+NBAP+NBOT",
   "+NBOX+NBO+NBOP+NBUT+NBUX+NBU+NBUP+NBURX+NBUR+NBYT+NBYX+NBY+NBYP+NBYRX+NBYR+HMIT+HMIX+HMI+HMIP",
   "+HMIEX+HMIE+HMIEP+HMAT+HMAX+HMA+HMAP+HMUOX+HMUO+HMUOP+HMOT+HMOX+HMO+HMOP+HMUT+HMUX+HMU+HMUP",
   "+HMURX+HMUR+HMYX+HMY+HMYP+HMYRX+HMYR+MIT+MIX+MI+MIP+MIEX+MIE+MIEP+MAT+MAX+nf+MAP+MUOT+MUOX+MUO",
   "+MUOP+MOT+MOX+MO+MOP+MEX+ME+MUT+MUX+of+MUP+MURX+MUR+MYT+MYX+MY+MYP+FIT+FIX+FI+FIP+FAT+FAX+hg",
   "+FAP+FOX+FO+FOP+FUT+FUX+FU+FUP+FURX+FUR+FYT+FYX+FY+FYP+VIT+VIX+VI+VIP+VIET+VIEX+VIE+VIEP+VAT",
   "+VAX+ym+VAP+VOT+VOX+VO+VOP+VEX+VEP+VUT+VUX+VU+VUP+VURX+VUR+VYT+VYX+VY+VYP+VYRX+VYR+DIT+DIX+DI",
   "+DIP+DIEX+DIE+DIEP+DAT+DAX+es+DAP+DUOX+DUO+ft+DOX+DO+DOP+DEX+DE+DEP+DUT+DUX+DU+DUP+DURX+DUR",
   "+TIT+TIX+TI+TIP+TIEX+TIE+TIEP+TAT+TAX+vx+TAP+TUOT+TUOX+TUO+TUOP+TOT+TOX+xe+xk+TEX+wf+TEP+TUT",
   "+TUX+TU+TUP+TURX+TUR+DDIT+DDIX+DDI+DDIP+DDIEX+DDIE+DDIEP+DDAT+DDAX+fb+DDAP+DDUOX+DDUO+DDUOP",
   "+DDOT+DDOX+DDO+DDOP+DDEX+DDE+DDEP+DDUT+DDUX+DDU+DDUP+DDURX+DDUR+NDIT+NDIX+NDI+NDIP+NDIEX+NDIE",
   "+NDAT+NDAX+NDA+NDAP+NDOT+NDOX+NDO+NDOP+NDEX+NDE+NDEP+NDUT+NDUX+NDU+NDUP+NDURX+NDUR+HNIT+HNIX",
   "+HNI+HNIP+HNIET+HNIEX+HNIE+HNIEP+HNAT+HNAX+HNA+HNAP+HNUOX+HNUO+HNOT+HNOX+HNOP+HNEX+HNE+HNEP",
   "+HNUT+NIT+NIX+NI+NIP+NIEX+NIE+NIEP+NAX+ok+NAP+NUOX+NUO+NUOP+oz+NOX+ov+NOP+NEX+NE+NEP+NUT+NUX",
   "+NU+NUP+NURX+NUR+HLIT+HLIX+HLI+HLIP+HLIEX+HLIE+HLIEP+HLAT+HLAX+HLA+HLAP+HLUOX+HLUO+HLUOP+HLOX",
   "+HLO+HLOP+HLEX+HLE+HLEP+HLUT+HLUX+HLU+HLUP+HLURX+HLUR+HLYT+HLYX+HLY+HLYP+HLYRX+HLYR+LIT+LIX+LI",
   "+LIP+LIET+LIEX+LIE+LIEP+LAT+LAX+ly+LAP+LUOT+LUOX+LUO+LUOP+LOT+LOX+LO+LOP+LEX+LE+LEP+LUT+LUX+LU",
   "+LUP+LURX+LUR+LYT+LYX+LY+LYP+LYRX+LYR+GIT+GIX+GI+GIP+GIET+GIEX+GIE+GIEP+GAT+GAX+ig+GAP+GUOT",
   "+GUOX+GUO+GUOP+GOT+GOX+GO+GOP+GET+GEX+GE+GEP+GUT+GUX+GU+GUP+GURX+GUR+KIT+KIX+KI+KIP+KIEX+KIE",
   "+KIEP+KAT+KAX+le+KAP+KUOX+KUO+KUOP+KOT+KOX+KO+KOP+KET+KEX+KE+KEP+KUT+KUX+KU+KUP+KURX+KUR+GGIT",
   "+GGIX+GGI+GGIEX+GGIE+GGIEP+GGAT+GGAX+GGA+GGAP+GGUOT+GGUOX+GGUO+GGUOP+GGOT+GGOX+GGO+GGOP+GGET",
   "+GGEX+GGE+GGEP+GGUT+GGUX+GGU+GGUP+GGURX+GGUR+MGIEX+MGIE+MGAT+MGAX+MGA+MGAP+MGUOX+MGUO+MGUOP",
   "+MGOT+MGOX+MGO+MGOP+MGEX+MGE+MGEP+MGUT+MGUX+MGU+MGUP+MGURX+MGUR+HXIT+HXIX+HXI+HXIP+HXIET+HXIEX",
   "+HXIE+HXIEP+HXAT+HXAX+HXA+HXAP+HXUOT+HXUOX+HXUO+HXUOP+HXOT+HXOX+HXO+HXOP+HXEX+HXE+HXEP+NGIEX",
   "+NGIE+NGIEP+NGAT+NGAX+oq+NGAP+NGUOT+NGUOX+NGUO+NGOT+NGOX+NGO+NGOP+NGEX+NGE+NGEP+HIT+HIEX+HIE",
   "+HAT+HAX+iw+HAP+HUOT+HUOX+HUO+HUOP+HOT+HOX+HO+HOP+HEX+jk+HEP+WAT+WAX+yx+WAP+WUOX+WUO+WUOP+WOX",
   "+WO+WOP+WEX+WE+WEP+ZIT+ZIX+ZI+ZIP+ZIEX+ZIE+ZIEP+ZAT+ZAX+zr+ZAP+ZUOX+ZUO+ZUOP+ZOT+ZOX+ZO+ZOP",
   "+ZEX+ZE+ZEP+ZUT+ZUX+ZU+ZUP+ZURX+ZUR+ZYT+ZYX+ZY+ZYP+ZYRX+ZYR+CIT+CIX+CI+CIP+CIET+CIEX+CIE+CIEP",
   "+CAT+CAX+cr+CAP+CUOX+CUO+CUOP+COT+COX+CO+COP+CEX+CE+CEP+CUT+CUX+CU+CUP+CURX+CUR+CYT+CYX+CY+CYP",
   "+CYRX+CYR+ZZIT+ZZIX+ZZI+ZZIP+ZZIET+ZZIEX+ZZIE+ZZIEP+ZZAT+ZZAX+ZZA+ZZAP+ZZOX+ZZO+ZZOP+ZZEX+ZZE",
   "+ZZEP+ZZUX+ZZU+ZZUP+ZZURX+ZZUR+ZZYT+ZZYX+ZZY+ZZYP+ZZYRX+ZZYR+NZIT+NZIX+NZI+NZIP+NZIEX+NZIE",
   "+NZIEP+NZAT+NZAX+NZA+NZAP+NZUOX+NZUO+NZOX+NZOP+NZEX+NZE+NZUX+NZU+NZUP+NZURX+NZUR+NZYT+NZYX+NZY",
   "+NZYP+NZYRX+NZYR+SIT+um+SI+SIP+SIEX+SIE+SIEP+SAT+SAX+sx+SAP+SUOX+SUO+SUOP+SOT+SOX+SO+SOP+SEX",
   "+SE+SEP+SUT+SUX+SU+SUP+SURX+SUR+SYT+SYX+SY+SYP+SYRX+SYR+SSIT+SSIX+SSI+SSIP+SSIEX+SSIE+SSIEP",
   "+SSAT+SSAX+ve+SSAP+SSOT+SSOX+SSO+SSOP+SSEX+SSE+SSEP+SSUT+SSUX+SSU+SSUP+SSYT+SSYX+SSY+SSYP",
   "+SSYRX+SSYR+ZHAT+ZHAX+zy+ZHAP+ZHUOX+ZHUO+ZHUOP+ZHOT+ZHOX+ZHO+ZHOP+ZHET+ZHEX+ZHE+ZHEP+ZHUT+ZHUX",
   "+ZHU+ZHUP+ZHURX+ZHUR+ZHYT+ZHYX+ZHY+ZHYP+ZHYRX+ZHYR+CHAT+CHAX+de+CHAP+CHUOT+CHUOX+CHUO+CHUOP",
   "+CHOT+CHOX+CHO+CHOP+CHET+CHEX+dh+CHEP+CHUX+CHU+CHUP+CHURX+CHUR+CHYT+CHYX+CHY+CHYP+CHYRX+CHYR",
   "+RRAX+sv+RRUOX+RRUO+RROT+RROX+RRO+RROP+RRET+RREX+RRE+RREP+RRUT+RRUX+RRU+RRUP+RRURX+RRUR+RRYT",
   "+RRYX+RRY+RRYP+RRYRX+RRYR+NRAT+NRAX+NRA+NRAP+NROX+NRO+NROP+NRET+NREX+NRE+NREP+NRUT+NRUX+NRU",
   "+NRUP+NRURX+NRUR+NRYT+NRYX+NRY+NRYP+NRYRX+NRYR+SHAT+SHAX+tr+SHAP+SHUOX+SHUO+SHUOP+SHOT+SHOX",
   "+SHO+SHOP+SHET+SHEX+tx+SHEP+SHUT+SHUX+SHU+SHUP+SHURX+SHUR+SHYT+SHYX+SHY+SHYP+SHYRX+SHYR+RAT",
   "+RAX+rv+RAP+RUOX+RUO+RUOP+ROT+ROX+RO+ROP+REX+RE+REP+RUT+RUX+RU+RUP+RURX+RUR+RYT+RYX+RY+RYP",
   "+RYRX+RYR+JIT+JIX+JI+JIP+JIET+JIEX+JIE+JIEP+JUOT+JUOX+JUO+JUOP+JOT+JOX+JO+JOP+JUT+JUX+JU+JUP",
   "+JURX+JUR+JYT+JYX+JY+JYP+JYRX+JYR+QIT+QIX+QI+QIP+QIET+QIEX+QIE+QIEP+QUOT+QUOX+QUO+QUOP+QOT+QOX",
   "+QO+QOP+QUT+QUX+QU+QUP+QURX+QUR+QYT+QYX+QY+QYP+QYRX+QYR+JJIT+JJIX+JJI+JJIP+JJIET+JJIEX+JJIE",
   "+JJIEP+JJUOX+JJUO+JJUOP+JJOT+JJOX+JJO+JJOP+JJUT+JJUX+JJU+JJUP+JJURX+JJUR+JJYT+JJYX+JJY+JJYP",
   "+NJIT+NJIX+NJI+NJIP+NJIET+NJIEX+NJIE+NJIEP+NJUOX+NJUO+NJOT+NJOX+NJO+NJOP+NJUX+NJU+NJUP+NJURX",
   "+NJUR+NJYT+NJYX+NJY+NJYP+NJYRX+NJYR+NYIT+NYIX+NYI+NYIP+NYIET+NYIEX+NYIE+NYIEP+NYUOX+NYUO+NYUOP",
   "+NYOT+NYOX+NYO+NYOP+NYUT+NYUX+NYU+NYUP+XIT+XIX+XI+XIP+XIET+XIEX+XIE+XIEP+XUOX+XUO+XOT+XOX+XO",
   "+XOP+XYT+XYX+XY+XYP+XYRX+XYR+YIT+YIX+YI+YIP+YIET+YIEX+YIE+YIEP+YUOT+YUOX+YUO+YUOP+YOT+YOX+YO",
   "+YOP+YUT+YUX+zp+YUP+YURX+YUR+YYT+YYX+YY+YYP+YYRX+YYR^A490*RADICAL QOT+LI+KIT+NYIP+CYP+SSI+GGOP",
   "+GEP+MI+HXIT+LYR+BBUT+MOP+YO+PUT+HXUO+TAT+ig+ZUP+CYT+DDUR+BUR+GGUO+NYOP+TU+OP+JJUT+ZOT+PYT+HMO",
   "+YIT+VUR+SHY+VEP+zr+JO+NZUP+JJY+GOT+JJIE+WO+DU+SHUR+LIE+CY+CUOP+CIP+HXOP+SHAT+ZUR+SHOP+dh",
   "+ZZIET+NBIE+KE^A4D0&LISUmqbm+qh+qt+es+vx+wm+ig+le+ln+kz+cr+de+DZA+xr+xs+nf+ok+ly+sx+zy+zr+oq",
   "+iw+XA+HHA+hg+yx+tr+zj+il+A+AE+E+EU+I+O+U+UE+UH+pm+xfMYA TI,okPO,MYA CYA:BO:ok:JEU*rldw+ifvh",
   "&VAIvvgg+EEN+HEE+WEE+WEEN+PEE+BHEE+BEE+MBEE+KPEE+MGBEE+GBEE+FEE+VEE+TEE+THEE+DHEE+DHHEE+LEE",
   "+REE+DEE+NDEE+SEE+SHEE+ZEE+ZHEE+CEE+JEE+NJEE+YEE+KEE+NGGEE+GEE+MEE+NEE+NYEE+I+kf+HI+HIN+WI+WIN",
   "+qw+BHI+BI+MBI+KPI+MGBI+GBI+FI+VI+TI+THI+DHI+DHHI+LI+RI+DI+NDI+SI+SHI+ZI+ZHI+CI+JI+NJI+YI+KI",
   "+NGGI+GI+MI+NI+NYI+A+ar+NGAN+iw+HAN+yx+WAN+qh+cd+bm+MBA+KPA+KPAN+MGBA+GBA+hg+ym+vx+wm+fg+DHHA",
   "+ly+rv+es+NDA+sx+tr+zr+zy+cr+kz+NJA+zj+le+KAN+NGGA+ig+nf+ok+pj+pu+OON+HOO+WOO+WOON+POO+BHOO",
   "+BOO+MBOO+KPOO+MGBOO+GBOO+FOO+VOO+TOO+THOO+DHOO+DHHOO+LOO+ROO+DOO+NDOO+SOO+SHOO+ZOO+ZHOO+COO",
   "+JOO+NJOO+YOO+KOO+NGGOO+GOO+MOO+NOO+NYOO+U+UN+HU+HUN+WU+WUN+PU+BHU+BU+MBU+KPU+MGBU+GBU+FU+VU",
   "+TU+THU+DHU+DHHU+LU+RU+DU+NDU+SU+SHU+ZU+ZHU+CU+JU+NJU+zp+KU+NGGU+GU+of+NU+NYU+O+ps+NGON+HO+HON",
   "+WO+WON+PO+BHO+BO+MBO+KPO+MGBO+GBO+GBON+FO+VO+xe+THO+DHO+DHHO+LO+RO+DO+NDO+SO+SHO+ZO+ZHO+CO+JO",
   "+NJO+YO+KO+NGGO+GO+MO+ov+NYO+E+gq+NGEN+jk+HEN+WE+WEN+qq+BHE+BE+MBE+KPE+KPEN+MGBE+GBE+GBEN+FE",
   "+VE+wf+wn+DHE+DHHE+LE+RE+DE+NDE+SE+tx+ZE+ZHE+CE+JE+NJE+YE+KE+NGGE+NGGEN+GE+GEN+ME+NE+NYE+NG",
   "+LENGTHENER*dw*ifvh*rtnm*vvNDOLEhg,le,SOO*vwFEENG+KEENG+TING+NII+BANG+FAA+TAA+DANG+DOONG+KUNG",
   "+TONG+DO-O+JONG*fozw+pt+yb+wy+ib+hu+um+to+gi+or*vvNDOLEnf,DO^A640&ercvmqZEMLYA*usmqZEMLYA",
   "*cvmqDZELO*usmqDZELO*cvmqsdDZE*usmqsdDZE*cvmqkt*usmqkt*cvmqDJERV*usmqDJERV*cvmqMONOGRAPH UK",
   "*usmqMONOGRAPH UK*cvmqBROADpq*usmqBROADpq*cvmqopYER*usmqopYER*cvmqYERUzebnYER*usmqYERUzebnYER",
   "*cvmqkuYAT*usmqkuYAT*cvmqsdzp*usmqsdzp*cvmqkuA*usmqkuA*cvmqdsmuzq*usmqdsmuzq*cvmqBLENDEDzq",
   "*usmqBLENDEDzq*cvmqkudsmuzq*usmqkudsmuzq*cvmqYN*usmqYN*cvmqsdTSE*usmqsdTSE*cvmquuDE*usmquuDE",
   "*cvmquuEL*usmquuEL*cvmquuEM*usmquuEM*cvmqMONOCULAR O*usmqMONOCULAR O*cvmqBINOCULAR O",
   "*usmqBINOCULAR O*cvmqfxMONOCULAR O*usmqfxMONOCULAR O*mqMULTIOCULAR O&dverVZMET+wknvuh+jynvuh",
   "+wwnvuh&SLAVONICbh&dvermqUKRAINIAN IE,I,YI,U,HARDuh,YERU,uuuh,pq+KAVYKA+PAYEROK&erKAVYKA",
   "*PAYEROK*cvmqDWE*usmqDWE*cvmqDZWE*usmqDZWE*cvmqZHWE*usmqZHWE*cvmqCCHE*usmqCCHE*cvmqDZZE",
   "*usmqDZZE*cvmqwfzentjv*usmqwfzentjv*cvmqTWE*usmqTWE*cvmqTSWE*usmqTSWE*cvmqTSSE*usmqTSSE",
   "*cvmqTCHE*usmqTCHE*cvmqHWE*usmqHWE*cvmqSHWE*usmqSHWE*cvmqfxO*usmqfxO*cvmqejO*usmqejO",
   "&nxmqerHARDuh,uuuh&dvermqEF,kuE&BAMUMmqA+le+U+KU+gg+REE+TAE+O+NYI+I+ly+qh+RII+RIEE+LEEEE+MEEEE",
   "+TAA+NDAA+NJAEM+M+SUU+of+SHII+SI+SHEUX+SEUX+KYEE+KET+NUAE+NU+NJUAE+YOQ+SHU+YUQ+zj+NSHA+KEUX",
   "+PEUX+NJEE+NTEE+PUE+WUE+PEE+FEE+RU+LU+MI+NI+REUX+RAE+KEN+NGKWAEN+NGGA+oq+SHO+PUAE+FU+FOM+yx+ok",
   "+LI+qw+LOQ+KO+MBEN+REN+MEN+nf+TI+KI+MO+MBAA+TET+KPA+wk+NTUU+SAMBA+FAAMAE+KOVUU+KOGHOM",
   "*dvnmKOQNDON,TUKWENTIS*NJAEMLI*ifvh*du*dw*tl*rtnm^A700&nxmqCHINESExfYIN PING:zkPING:YIN SHANG",
   ":zkSHANG:YIN QU:zkQU:YIN RU:zkRU+EXTRA-HIGHfwxfbt+jrfwxfbt+MIDfwxfbt+nbfwxfbt+EXTRA-LOWfwxfbt",
   "+EXTRA-HIGHfwmjxfbt+jrfwmjxfbt+MIDfwmjxfbt+nbfwmjxfbt+EXTRA-LOWfwmjxfbt+EXTRA-HIGHmjxfbt",
   "+jrmjxfbt+MIDmjxfbt+nbmjxfbt+EXTRA-LOWmjxfbt+ftypbt,ur,jwbt+ncsgefat+rwyfbd,gabd,hbnm,kshbnm",
   "+nbkshbnm+STRESSasjrxf:nbxf&mfcvmqghaj*usmqghaj*cvmqghah*usmqghah*cvmqHENG*usmqHENG*cvmqTZ",
   "*usmqTZ*cvmqTRESILLO*usmqTRESILLO*cvmqCUATRILLO*usmqCUATRILLO*cvmqCUATRILLOzedw",
   "*usmqCUATRILLOzedw*mquscvF:S*cvmqaa*usmqaa*cvmqAO*usmqAO*cvmqbj*usmqbj*cvmqAV*usmqAV",
   "*cvmqAVzejwbt*usmqAVzejwbt*cvmqAY*usmqAY*cvmqsdCzeft*usmqsdCzeft*cvmqKzevj*usmqKzevj",
   "*cvmqKzefivj*usmqKzefivj*cvmqKzevjasfivj*usmqKzevjasfivj*cvmqBROKEN L*usmqBROKEN L*cvmqLzejrvj",
   "*usmqLzejrvj*cvmqOzemyvjqe*usmqOzemyvjqe*cvmqOzena*usmqOzena*cvmqpu*usmqpu*cvmqPzevjwzff",
   "*usmqPzevjwzff*cvmqPzeFLOURISH*usmqPzeFLOURISH*cvmqPzeSQUIRRELwb*usmqPzeSQUIRRELwb",
   "*cvmqQzevjwzff*usmqQzevjwzff*cvmqQzefivj*usmqQzefivj*cvmqR ROTUNDA*usmqR ROTUNDA",
   "*cvmqRUM ROTUNDA*usmqRUM ROTUNDA*cvmqVzefivj*usmqVzefivj*cvmqVY*usmqVY*cvmqVISIGOTHIC Z",
   "*usmqVISIGOTHIC Z*cvmqTHORNzevj*usmqTHORNzevj*cvmqTHORNzevjwzff*usmqTHORNzevjwzff*cvmqVEND",
   "*usmqVEND*cvmqET*usmqET*cvmqIS*usmqIS*cvmqCON*usmqCON&nxmqUS&mfusmqDUM,LUM,MUM,NUM,RUM",
   "*mquscvRUM*usmqTUM,UM*cvmqknD*usmqknD*cvmqknF*usmqknF*cvmqknG,xwknG*usmqxwknG*cvmqxwL*usmqxwL",
   "*cvmqknR*usmqknR*cvmqknS*usmqknS*cvmqknT*usmqknT&nxmqnbdpae+du+ucgvuh&mfcvmqSALTILLO",
   "*usmqSALTILLO*cvmqxwH*usmqLzesbjvasBELT*mqSINOLOGICALft*cvmqNzeff*usmqNzeff*cvmqCzebt",
   "*usmqCzebt;qjjv,Hzeqjjv*cvmqBzeFLOURISH*usmqBzeFLOURISH*cvmqFzevj*usmqFzevj*cvmqVOLAPUK AE",
   "*usmqVOLAPUK AE*cvmqVOLAPUKpm*usmqVOLAPUKpm*cvmqVOLAPUK UE*usmqVOLAPUK UE*cvmqGzepkvj",
   "*usmqGzepkvj*cvmqKzepkvj*usmqKzepkvj*cvmqNzepkvj*usmqNzepkvj*cvmqRzepkvj*usmqRzepkvj",
   "*cvmqSzepkvj*usmqSzepkvj*cvmqHzejv,sdpvE,tgG,LzeBELT,uscvI*mquscvQ*cvmqxwK:T,Jzeek,dk,ca",
   "*usmqca*cvmqpq*usmqpq*cvmqUzevj*usmqUzevj*cvmqiqA*usmqiqA*cvmqiqI*usmqiqI*cvmqiqU*usmqiqU",
   "*cvmqppPOLISH O*usmqppPOLISH O*cvmqANGLICANA W*usmqANGLICANA W*cvmqCzeqjjv,Szejv,Zzeqjjv",
   ",Dzeucvjqe*usmqDzeucvjqe*cvmqSzeucvjqe*usmqSzeucvjqe^A7D0*cvmqdsknG*usmqdsknG^A7D3,fxTHORN",
   "^A7D5:WYNN*cvmqntSCOTS S*usmqntSCOTS S*cvmqSIGMOID S*usmqSIGMOID S^A7F2&nxmqcvC,F,Q",
   "&mfcvmqsdiyH*usmqsdiyH*EPIGRAPHICmqufI&nxmqcvHzevj+usmrpm&mfmquscvxwM*EPIGRAPHICmqsdF:P,ksM",
   ",I LONGA,bbM&SYLOTI NAGRImqA,I+uhDVISVARA+mqU,E,O+uhHASANTA+mqKO,KHO,GO,GHO+uhaw+mqCO,CHO,JO",
   ",JHO,TTO,TTHO,DDO,DDHO,xe,THO,DO,DHO,ov,PO,PHO,BO,BHO,MO,RO,LO,RRO,SO,HO+ywuhA:I:U:E:pu",
   "+POETRY MARK-1,MARK-2,MARK-3,MARK-4+uhaoHASANTA^A830&oyINDICidptrq:iy,wyrr,ptuo:gk",
   ",wySIXTEENTHS+rqnm+PLACEHOLDERnm+RUPEEnm+QUANTITYnm^A840&PHAGS-PAmqle+ln+ig+oq+cr+de+kz+pj+vx",
   "+wm+es+ok+qh+qt+bm+nf+xr+xs+DZA+yx+zy+zr+usA+zj+rv+ly+tr+sx+iw+A+I+U+E+O+QA+XA+hg+GGA+gg",
   "*vlmqyx,zj*mqxu+xv+fb+ou+aozj+VOICELESStr+yviw+ASPIRATEDhg*vlmqrv*SUPERFIXEDmqrv*mqcu*ukjlnm",
   "*fxjlnm*nmts+fxts^A880&SAURASHTRAuhaw+yt*mqA+aa+I+ke+U+yl+yuR,su,L,mv+E+gg+ag+O+pu+bj+le+ln+ig",
   "+il+oq+cr+de+kz+lc+pj+xu+xv+fb+fc+ou+vx+wm+es+fg+ok+qh+qt+bm+cd+nf+zj+rv+ly+ym+tr+ve+sx+iw+mw",
   "*eauhHAARU*ywuhaa,I,ke,U,yl,yuR:su:L:mv,E,gg,ag,O,pu,bj*uhys+cu^A8CE*ex*fxex*fozw+pt+yb+wy+ib",
   "+hu+um+to+gi+or^A8E0&dvDEVANAGARIfozw,pt,yb,wy,ib,hu,um,to,gi,or+mqA,U,le,ok,qh,rv,VI+uhbk",
   "&DEVANAGARIuhSPACINGcu+cuys+fxcuys+cuyb,wy,bk+PUSHPIKA*GAPhp*cw*HEADSTROKE*uhud*JAIN OM*mqAY",
   "*ywuhAY&KAYAH LIfozw,pt,yb,wy,ib,hu,um,to,gi,or+mqle,ln,ig,oq,sx,tr,zr,pj,vx,HTA,ok,qh,qt,nf",
   ",es,bm,rv,zj,ly,yx,wm,iw,ym,cr,A,pm,I,pu+ywUE,E,U,gg,O+xfPLOPHU,CALYA:PLOPHU+uhCWI,SHYA",
   "&REJANGmqle+ig+oq+vx+es+ok+qh+bm+nf+cr+kz+pj+sx+rv+ly+zj+yx+iw+MBA+NGGA+NDA+NYJA+A*ywuhI,U,E",
   ",ag,O,bj,EU,EA*eauhNG,N,R,H*ys^A95F*tinm&jiCHOSEONG TIKEUT-MIEUM+TIKEUT-PIEUP+TIKEUT-SIOS",
   "+TIKEUT-CIEUC+sf+RIEUL-SSANGKIYEOK+RIEUL-TIKEUT+RIEUL-SSANGTIKEUT+RIEUL-MIEUM+RIEUL-PIEUP",
   "+RIEUL-SSANGPIEUP+RIEUL-KAPYEOUNPIEUP+RIEUL-SIOS+RIEUL-CIEUC+RIEUL-KHIEUKH+MIEUM-KIYEOK",
   "+MIEUM-TIKEUT+MIEUM-SIOS+PIEUP-SIOS-THIEUTH+PIEUP-KHIEUKH+PIEUP-HIEUH+SSANGSIOS-PIEUP",
   "+IEUNG-RIEUL+IEUNG-HIEUH+SSANGCIEUC-HIEUH+SSANGTHIEUTH+PHIEUPH-HIEUH+HIEUH-SIOS",
   "+SSANGYEORINHIEUH^A980&JAVANESEuhPANYANGGA+CECAK+LAYAR+WIGNYAN*mqA+I KAWI+I+ke+U+qhCEREK",
   "+oqLELET:RASWADI+E+ag+O+le,SASAK,oi+ig,oi+oq+cr,oi+kz+pjoi+kznj+pj+xu,nj+fb,nj+okoi+vx,oi+es",
   ",nj+ok+qh,oi+bm,oi+nf+zj+rv,AGUNG+ly+yx+sxoi,nj+sx+iw*uhCECAK TELU*ywuhTARUNG,TOLONG,WULU",
   ":MELIK,SUKU:MENDUT,TALING,DIRGA MURE,PEPET*eauhKERET,PENGKAL,CAKRA*PANGKON*mhRERENGGAN",
   "*sgRERENGGAN*PADA ANDAP+MADYA+LUHUR+WINDU+PANGKAT+LINGSA+LUNGSI+ADEG,ADEG+PISELEH",
   "*xwPADA PISELEH^A9CF*PANGRANGKEP*fozw+pt+yb+wy+ib+hu+um+to+gi+or^A9DE*PADA TIRTA TUMETES",
   "+ISEN-ISEN&MYANMARmqSHANil,de,lc,ou,cd*uhSHAN SAW*nxmqSHAN REDUPLICATION*mqTAI LAINGpj:hg:ig",
   ":il:kz:lc:fb:fc:ou*TAI LAINGfozw:pt:yb:wy:ib:hu:um:to:gi:or*mqTAI LAINGmw:es:fg:bm:cd",
   "^AA00&CHAMmqA+I+U+E+ag+O+le+ln+ig+il+NGUE+oq+de+CHHA+kz+lc+NHUE+NHA+NHJA+vx+wm+es+fg+NUE+ok+fb",
   "+qh+PPA+qt+bm+cd+MUE+nf+BBA+zj+rv+ly+ym+ve+sx+iw*ywuhaa,I,ke,EI,U,pm,O,ag,bj,UE*eauhzj,rv,ly",
   ",yx^AA40*mqhqK,G,NG*eauhhqNG*mqhqCH,T,N,P,Y,R,L,SS*eauhhqM:H^AA50*fozw+pt+yb+wy+ib+hu+um+to+gi",
   "+or^AA5C*rlSPIRAL+ex+fxex+xqex&MYANMARmqKHAMTIig,cr,de,kz,lc,pj,xu,xv,fb,fc,fg,ok,sx,iw,HHA,hg",
   "*nxmqKHAMTI REDUPLICATION*mqKHAMTI XA,zr,rv*LOGOGRAM KHAMTI OAY,QN,HM*vwAITONhb,pt,yb",
   "*mqAITONrv*uhPAOlixf+TAI LAINGxg:xi*mqSHWE PALAUNGde:tr&TAI VIETmqnbKO,jrKO,nbKHO,jrKHO,nbKHHO",
   ",jrKHHO,nbGO,jrGO,nbNGO,jrNGO,nbCO,jrCO,nbCHO,jrCHO,nbSO,jrSO,nbNYO,jrNYO,nbDO,jrDO,nbxe,jrxe",
   ",nbTHO,jrTHO,nbov,jrov,nbBO,jrBO,nbPO,jrPO,nbPHO,jrPHO,nbFO,jrFO,nbMO,jrMO,nbYO,jrYO,nbRO,jrRO",
   ",nbLO,jrLO,nbVO,jrVO,nbHO,jrHO,nbO,jrO+MAI KANG+ywaa,I,UE,U,E,O+MAI KHIT+ywIA,UEA,UA,AUE,AY,ar",
   ",AM+xfMAI EK:NUENG:THO:SONG^AADB+vwKON,NUENG,SAM,HO HOI,KOI KOI&MEETEI MAYEKmqE,O,de,pj,xu,xv",
   ",fb,fc,ou,tr,ve+ywuhke:yl:AAI:bj:AAU+CHEIKHAN+AHANG KHUDAM+ANJI+vvREPETITIONnm+zfREPETITIONnm",
   "+ywuhyt+ys^AB01&ETHIOPICvvTTHU+TTHI+TTHAA+TTHEE+TTHE+TTHO^AB09+DDHU+DDHI+DDHAA+DDHEE+DDHE+DDHO",
   "^AB11+DZU+DZI+DZAA+DZEE+DZE+DZO^AB20+CCHHA+CCHHU+CCHHI+CCHHAA+CCHHEE+CCHHE+CCHHO^AB28+BBA+BBU",
   "+BBI+BBAA+BBEE+BBE+BBO^AB30&mfusmqbvan,A REVERSED-SCHWA,BLACKLETTER E,bvE,EzeFLOURISH,LENIS F",
   ",tgGzeek,LzeksLAZY S;fxntxc;ntsm,Mzeek,Nzeek,ENGzeek,BLACKLETTER O;zevj,pvOzevj,kspm,xwpmzevj",
   "<jwvj:O OPEN-O<zevj,STIRRUP R*mquscvRzesgmm*usmqR WITHOUT HANDLE,fxR,Rzeek,fxRzeek,tgR;zesm",
   ",BASELINEgz,Uzeucsgmm:btzeucsgmm,UI,xwUI,Uzemhjv,dk:zenbsgsm<mhSERIF,Xzenbsgsm;mymhmm>asnbsgsm",
   ">zeSERIF,Yzeucsgmm&nxcnzekscn*mqusHENG,LzeksLAZY S;ntxc,Uzemhjv&mfusmqSAKHA YAT,kuE,pvpm,UO",
   ",ksan&itmquscvpq&mfusmqDZfpzesbjv,TSfpzesbjv,xwRzentxc&nxmqusxwW+mhvz+sgvz^AB70&CHEROKEEusmqA",
   ",E,I,O,U,V,ig,le,GE,GI,GO,GU,GV,iw,jk,HI,HO,HU,HV,ly,LE,LI,LO,LU,LV,nf,ME,MI,MO,of,ok,HNA,NAH",
   ",NE,NI,ov,NU,NV,QUA,QUE,QUI,QUO,QUU,QUV,sx,S,SE,SI,SO,SU,SV,es,vx,DE,wf,DI,TI,DO,DU,DV,DLA,TLA",
   ",TLE,TLI,TLO,TLU,TLV,xr,TSE,TSI,TSO,TSU,TSV,yx,WE,WI,WO,WU,WV,zj&MEETEI MAYEKmqKOK,SAM,LAI,MIT",
   ",qh,ok,CHIL,TIL,KHOU,NGOU,THOU,WAI,zk,HUK,UN,I,PHAM,ATIYA,GOK,JHAM,RAI,bm,JIL,DIL,GHOU,DHOU",
   ",BHAM,KOKmz,LAImz,MITmz,qhmz,okmz,TILmz,NGOUmz,Imz+ywuhONAP:INAP:ANAP:YENAP:SOUNAP:UNAP",
   ":CHEINAP:NUNG+CHEIKHEI+LUM IYEK+APUN IYEK^ABF0+fozw,pt,yb,wy,ib,hu,um,to,gi,or",
   "^D7B0&jiJUNGSEONG O-YEO+O-O-I+YO-A+YO-AE+YO-EO+U-YEO+U-I-I+YU-AE+YU-O+EU-A+EU-EO+EU-E+EU-O",
   "+I-YA-O+I-YAE+I-YEO+I-YE+I-O-I+I-YO+I-YU+I-I+ARAEA-A+ARAEA-E^D7CB*JONGSEONG NIEUN-RIEUL",
   "+NIEUN-CHIEUCH+SSANGTIKEUT+SSANGTIKEUT-PIEUP+TIKEUT-PIEUP+TIKEUT-SIOS+TIKEUT-SIOS-KIYEOK",
   "+TIKEUT-CIEUC+TIKEUT-CHIEUCH+TIKEUT-THIEUTH+RIEUL-SSANGKIYEOK+RIEUL-KIYEOK-HIEUH",
   "+SSANGRIEUL-KHIEUKH+RIEUL-MIEUM-HIEUH+RIEUL-PIEUP-TIKEUT+RIEUL-PIEUP-PHIEUPH+RIEUL-YESIEUNG",
   "+RIEUL-YEORINHIEUH-HIEUH+KAPYEOUNRIEUL+MIEUM-NIEUN+MIEUM-SSANGNIEUN+SSANGMIEUM",
   "+MIEUM-PIEUP-SIOS+MIEUM-CIEUC+PIEUP-TIKEUT+PIEUP-RIEUL-PHIEUPH+PIEUP-MIEUM+SSANGPIEUP",
   "+PIEUP-SIOS-TIKEUT+PIEUP-CIEUC+PIEUP-CHIEUCH+SIOS-MIEUM+SIOS-KAPYEOUNPIEUP+SSANGSIOS-KIYEOK",
   "+SSANGSIOS-TIKEUT+SIOS-PANSIOS+SIOS-CIEUC+SIOS-CHIEUCH+SIOS-THIEUTH+SIOS-HIEUH+PANSIOS-PIEUP",
   "+PANSIOS-KAPYEOUNPIEUP+YESIEUNG-MIEUM+YESIEUNG-HIEUH+CIEUC-PIEUP+CIEUC-SSANGPIEUP+SSANGCIEUC",
   "+PHIEUPH-SIOS+PHIEUPH-THIEUTH^F900&CJK COMPATIBILITY IDEOGRAPH-F900+IDEOGRAPH-F901",
   "+IDEOGRAPH-F902+IDEOGRAPH-F903+IDEOGRAPH-F904+IDEOGRAPH-F905+IDEOGRAPH-F906+IDEOGRAPH-F907",
   "+IDEOGRAPH-F908+IDEOGRAPH-F909+IDEOGRAPH-F90A+IDEOGRAPH-F90B+IDEOGRAPH-F90C+IDEOGRAPH-F90D",
   "+IDEOGRAPH-F90E+IDEOGRAPH-F90F+IDEOGRAPH-F910+IDEOGRAPH-F911+IDEOGRAPH-F912+IDEOGRAPH-F913",
   "+IDEOGRAPH-F914+IDEOGRAPH-F915+IDEOGRAPH-F916+IDEOGRAPH-F917+IDEOGRAPH-F918+IDEOGRAPH-F919",
   "+IDEOGRAPH-F91A+IDEOGRAPH-F91B+IDEOGRAPH-F91C+IDEOGRAPH-F91D+IDEOGRAPH-F91E+IDEOGRAPH-F91F",
   "+IDEOGRAPH-F920+IDEOGRAPH-F921+IDEOGRAPH-F922+IDEOGRAPH-F923+IDEOGRAPH-F924+IDEOGRAPH-F925",
   "+IDEOGRAPH-F926+IDEOGRAPH-F927+IDEOGRAPH-F928+IDEOGRAPH-F929+IDEOGRAPH-F92A+IDEOGRAPH-F92B",
   "+IDEOGRAPH-F92C+IDEOGRAPH-F92D+IDEOGRAPH-F92E+IDEOGRAPH-F92F+IDEOGRAPH-F930+IDEOGRAPH-F931",
   "+IDEOGRAPH-F932+IDEOGRAPH-F933+IDEOGRAPH-F934+IDEOGRAPH-F935+IDEOGRAPH-F936+IDEOGRAPH-F937",
   "+IDEOGRAPH-F938+IDEOGRAPH-F939+IDEOGRAPH-F93A+IDEOGRAPH-F93B+IDEOGRAPH-F93C+IDEOGRAPH-F93D",
   "+IDEOGRAPH-F93E+IDEOGRAPH-F93F+IDEOGRAPH-F940+IDEOGRAPH-F941+IDEOGRAPH-F942+IDEOGRAPH-F943",
   "+IDEOGRAPH-F944+IDEOGRAPH-F945+IDEOGRAPH-F946+IDEOGRAPH-F947+IDEOGRAPH-F948+IDEOGRAPH-F949",
   "+IDEOGRAPH-F94A+IDEOGRAPH-F94B+IDEOGRAPH-F94C+IDEOGRAPH-F94D+IDEOGRAPH-F94E+IDEOGRAPH-F94F",
   "+IDEOGRAPH-F950+IDEOGRAPH-F951+IDEOGRAPH-F952+IDEOGRAPH-F953+IDEOGRAPH-F954+IDEOGRAPH-F955",
   "+IDEOGRAPH-F956+IDEOGRAPH-F957+IDEOGRAPH-F958+IDEOGRAPH-F959+IDEOGRAPH-F95A+IDEOGRAPH-F95B",
   "+IDEOGRAPH-F95C+IDEOGRAPH-F95D+IDEOGRAPH-F95E+IDEOGRAPH-F95F+IDEOGRAPH-F960+IDEOGRAPH-F961",
   "+IDEOGRAPH-F962+IDEOGRAPH-F963+IDEOGRAPH-F964+IDEOGRAPH-F965+IDEOGRAPH-F966+IDEOGRAPH-F967",
   "+IDEOGRAPH-F968+IDEOGRAPH-F969+IDEOGRAPH-F96A+IDEOGRAPH-F96B+IDEOGRAPH-F96C+IDEOGRAPH-F96D",
   "+IDEOGRAPH-F96E+IDEOGRAPH-F96F+IDEOGRAPH-F970+IDEOGRAPH-F971+IDEOGRAPH-F972+IDEOGRAPH-F973",
   "+IDEOGRAPH-F974+IDEOGRAPH-F975+IDEOGRAPH-F976+IDEOGRAPH-F977+IDEOGRAPH-F978+IDEOGRAPH-F979",
   "+IDEOGRAPH-F97A+IDEOGRAPH-F97B+IDEOGRAPH-F97C+IDEOGRAPH-F97D+IDEOGRAPH-F97E+IDEOGRAPH-F97F",
   "+IDEOGRAPH-F980+IDEOGRAPH-F981+IDEOGRAPH-F982+IDEOGRAPH-F983+IDEOGRAPH-F984+IDEOGRAPH-F985",
   "+IDEOGRAPH-F986+IDEOGRAPH-F987+IDEOGRAPH-F988+IDEOGRAPH-F989+IDEOGRAPH-F98A+IDEOGRAPH-F98B",
   "+IDEOGRAPH-F98C+IDEOGRAPH-F98D+IDEOGRAPH-F98E+IDEOGRAPH-F98F+IDEOGRAPH-F990+IDEOGRAPH-F991",
   "+IDEOGRAPH-F992+IDEOGRAPH-F993+IDEOGRAPH-F994+IDEOGRAPH-F995+IDEOGRAPH-F996+IDEOGRAPH-F997",
   "+IDEOGRAPH-F998+IDEOGRAPH-F999+IDEOGRAPH-F99A+IDEOGRAPH-F99B+IDEOGRAPH-F99C+IDEOGRAPH-F99D",
   "+IDEOGRAPH-F99E+IDEOGRAPH-F99F+IDEOGRAPH-F9A0+IDEOGRAPH-F9A1+IDEOGRAPH-F9A2+IDEOGRAPH-F9A3",
   "+IDEOGRAPH-F9A4+IDEOGRAPH-F9A5+IDEOGRAPH-F9A6+IDEOGRAPH-F9A7+IDEOGRAPH-F9A8+IDEOGRAPH-F9A9",
   "+IDEOGRAPH-F9AA+IDEOGRAPH-F9AB+IDEOGRAPH-F9AC+IDEOGRAPH-F9AD+IDEOGRAPH-F9AE+IDEOGRAPH-F9AF",
   "+IDEOGRAPH-F9B0+IDEOGRAPH-F9B1+IDEOGRAPH-F9B2+IDEOGRAPH-F9B3+IDEOGRAPH-F9B4+IDEOGRAPH-F9B5",
   "+IDEOGRAPH-F9B6+IDEOGRAPH-F9B7+IDEOGRAPH-F9B8+IDEOGRAPH-F9B9+IDEOGRAPH-F9BA+IDEOGRAPH-F9BB",
   "+IDEOGRAPH-F9BC+IDEOGRAPH-F9BD+IDEOGRAPH-F9BE+IDEOGRAPH-F9BF+IDEOGRAPH-F9C0+IDEOGRAPH-F9C1",
   "+IDEOGRAPH-F9C2+IDEOGRAPH-F9C3+IDEOGRAPH-F9C4+IDEOGRAPH-F9C5+IDEOGRAPH-F9C6+IDEOGRAPH-F9C7",
   "+IDEOGRAPH-F9C8+IDEOGRAPH-F9C9+IDEOGRAPH-F9CA+IDEOGRAPH-F9CB+IDEOGRAPH-F9CC+IDEOGRAPH-F9CD",
   "+IDEOGRAPH-F9CE+IDEOGRAPH-F9CF+IDEOGRAPH-F9D0+IDEOGRAPH-F9D1+IDEOGRAPH-F9D2+IDEOGRAPH-F9D3",
   "+IDEOGRAPH-F9D4+IDEOGRAPH-F9D5+IDEOGRAPH-F9D6+IDEOGRAPH-F9D7+IDEOGRAPH-F9D8+IDEOGRAPH-F9D9",
   "+IDEOGRAPH-F9DA+IDEOGRAPH-F9DB+IDEOGRAPH-F9DC+IDEOGRAPH-F9DD+IDEOGRAPH-F9DE+IDEOGRAPH-F9DF",
   "+IDEOGRAPH-F9E0+IDEOGRAPH-F9E1+IDEOGRAPH-F9E2+IDEOGRAPH-F9E3+IDEOGRAPH-F9E4+IDEOGRAPH-F9E5",
   "+IDEOGRAPH-F9E6+IDEOGRAPH-F9E7+IDEOGRAPH-F9E8+IDEOGRAPH-F9E9+IDEOGRAPH-F9EA+IDEOGRAPH-F9EB",
   "+IDEOGRAPH-F9EC+IDEOGRAPH-F9ED+IDEOGRAPH-F9EE+IDEOGRAPH-F9EF+IDEOGRAPH-F9F0+IDEOGRAPH-F9F1",
   "+IDEOGRAPH-F9F2+IDEOGRAPH-F9F3+IDEOGRAPH-F9F4+IDEOGRAPH-F9F5+IDEOGRAPH-F9F6+IDEOGRAPH-F9F7",
   "+IDEOGRAPH-F9F8+IDEOGRAPH-F9F9+IDEOGRAPH-F9FA+IDEOGRAPH-F9FB+IDEOGRAPH-F9FC+IDEOGRAPH-F9FD",
   "+IDEOGRAPH-F9FE+IDEOGRAPH-F9FF+IDEOGRAPH-FA00+IDEOGRAPH-FA01+IDEOGRAPH-FA02+IDEOGRAPH-FA03",
   "+IDEOGRAPH-FA04+IDEOGRAPH-FA05+IDEOGRAPH-FA06+IDEOGRAPH-FA07+IDEOGRAPH-FA08+IDEOGRAPH-FA09",
   "+IDEOGRAPH-FA0A+IDEOGRAPH-FA0B+IDEOGRAPH-FA0C+IDEOGRAPH-FA0D+IDEOGRAPH-FA0E+IDEOGRAPH-FA0F",
   "+IDEOGRAPH-FA10+IDEOGRAPH-FA11+IDEOGRAPH-FA12+IDEOGRAPH-FA13+IDEOGRAPH-FA14+IDEOGRAPH-FA15",
   "+IDEOGRAPH-FA16+IDEOGRAPH-FA17+IDEOGRAPH-FA18+IDEOGRAPH-FA19+IDEOGRAPH-FA1A+IDEOGRAPH-FA1B",
   "+IDEOGRAPH-FA1C+IDEOGRAPH-FA1D+IDEOGRAPH-FA1E+IDEOGRAPH-FA1F+IDEOGRAPH-FA20+IDEOGRAPH-FA21",
   "+IDEOGRAPH-FA22+IDEOGRAPH-FA23+IDEOGRAPH-FA24+IDEOGRAPH-FA25+IDEOGRAPH-FA26+IDEOGRAPH-FA27",
   "+IDEOGRAPH-FA28+IDEOGRAPH-FA29+IDEOGRAPH-FA2A+IDEOGRAPH-FA2B+IDEOGRAPH-FA2C+IDEOGRAPH-FA2D",
   "+IDEOGRAPH-FA2E+IDEOGRAPH-FA2F+IDEOGRAPH-FA30+IDEOGRAPH-FA31+IDEOGRAPH-FA32+IDEOGRAPH-FA33",
   "+IDEOGRAPH-FA34+IDEOGRAPH-FA35+IDEOGRAPH-FA36+IDEOGRAPH-FA37+IDEOGRAPH-FA38+IDEOGRAPH-FA39",
   "+IDEOGRAPH-FA3A+IDEOGRAPH-FA3B+IDEOGRAPH-FA3C+IDEOGRAPH-FA3D+IDEOGRAPH-FA3E+IDEOGRAPH-FA3F",
   "+IDEOGRAPH-FA40+IDEOGRAPH-FA41+IDEOGRAPH-FA42+IDEOGRAPH-FA43+IDEOGRAPH-FA44+IDEOGRAPH-FA45",
   "+IDEOGRAPH-FA46+IDEOGRAPH-FA47+IDEOGRAPH-FA48+IDEOGRAPH-FA49+IDEOGRAPH-FA4A+IDEOGRAPH-FA4B",
   "+IDEOGRAPH-FA4C+IDEOGRAPH-FA4D+IDEOGRAPH-FA4E+IDEOGRAPH-FA4F+IDEOGRAPH-FA50+IDEOGRAPH-FA51",
   "+IDEOGRAPH-FA52+IDEOGRAPH-FA53+IDEOGRAPH-FA54+IDEOGRAPH-FA55+IDEOGRAPH-FA56+IDEOGRAPH-FA57",
   "+IDEOGRAPH-FA58+IDEOGRAPH-FA59+IDEOGRAPH-FA5A+IDEOGRAPH-FA5B+IDEOGRAPH-FA5C+IDEOGRAPH-FA5D",
   "+IDEOGRAPH-FA5E+IDEOGRAPH-FA5F+IDEOGRAPH-FA60+IDEOGRAPH-FA61+IDEOGRAPH-FA62+IDEOGRAPH-FA63",
   "+IDEOGRAPH-FA64+IDEOGRAPH-FA65+IDEOGRAPH-FA66+IDEOGRAPH-FA67+IDEOGRAPH-FA68+IDEOGRAPH-FA69",
   "+IDEOGRAPH-FA6A+IDEOGRAPH-FA6B+IDEOGRAPH-FA6C+IDEOGRAPH-FA6D^FA70+IDEOGRAPH-FA70",
   "+IDEOGRAPH-FA71+IDEOGRAPH-FA72+IDEOGRAPH-FA73+IDEOGRAPH-FA74+IDEOGRAPH-FA75+IDEOGRAPH-FA76",
   "+IDEOGRAPH-FA77+IDEOGRAPH-FA78+IDEOGRAPH-FA79+IDEOGRAPH-FA7A+IDEOGRAPH-FA7B+IDEOGRAPH-FA7C",
   "+IDEOGRAPH-FA7D+IDEOGRAPH-FA7E+IDEOGRAPH-FA7F+IDEOGRAPH-FA80+IDEOGRAPH-FA81+IDEOGRAPH-FA82",
   "+IDEOGRAPH-FA83+IDEOGRAPH-FA84+IDEOGRAPH-FA85+IDEOGRAPH-FA86+IDEOGRAPH-FA87+IDEOGRAPH-FA88",
   "+IDEOGRAPH-FA89+IDEOGRAPH-FA8A+IDEOGRAPH-FA8B+IDEOGRAPH-FA8C+IDEOGRAPH-FA8D+IDEOGRAPH-FA8E",
   "+IDEOGRAPH-FA8F+IDEOGRAPH-FA90+IDEOGRAPH-FA91+IDEOGRAPH-FA92+IDEOGRAPH-FA93+IDEOGRAPH-FA94",
   "+IDEOGRAPH-FA95+IDEOGRAPH-FA96+IDEOGRAPH-FA97+IDEOGRAPH-FA98+IDEOGRAPH-FA99+IDEOGRAPH-FA9A",
   "+IDEOGRAPH-FA9B+IDEOGRAPH-FA9C+IDEOGRAPH-FA9D+IDEOGRAPH-FA9E+IDEOGRAPH-FA9F+IDEOGRAPH-FAA0",
   "+IDEOGRAPH-FAA1+IDEOGRAPH-FAA2+IDEOGRAPH-FAA3+IDEOGRAPH-FAA4+IDEOGRAPH-FAA5+IDEOGRAPH-FAA6",
   "+IDEOGRAPH-FAA7+IDEOGRAPH-FAA8+IDEOGRAPH-FAA9+IDEOGRAPH-FAAA+IDEOGRAPH-FAAB+IDEOGRAPH-FAAC",
   "+IDEOGRAPH-FAAD+IDEOGRAPH-FAAE+IDEOGRAPH-FAAF+IDEOGRAPH-FAB0+IDEOGRAPH-FAB1+IDEOGRAPH-FAB2",
   "+IDEOGRAPH-FAB3+IDEOGRAPH-FAB4+IDEOGRAPH-FAB5+IDEOGRAPH-FAB6+IDEOGRAPH-FAB7+IDEOGRAPH-FAB8",
   "+IDEOGRAPH-FAB9+IDEOGRAPH-FABA+IDEOGRAPH-FABB+IDEOGRAPH-FABC+IDEOGRAPH-FABD+IDEOGRAPH-FABE",
   "+IDEOGRAPH-FABF+IDEOGRAPH-FAC0+IDEOGRAPH-FAC1+IDEOGRAPH-FAC2+IDEOGRAPH-FAC3+IDEOGRAPH-FAC4",
   "+IDEOGRAPH-FAC5+IDEOGRAPH-FAC6+IDEOGRAPH-FAC7+IDEOGRAPH-FAC8+IDEOGRAPH-FAC9+IDEOGRAPH-FACA",
   "+IDEOGRAPH-FACB+IDEOGRAPH-FACC+IDEOGRAPH-FACD+IDEOGRAPH-FACE+IDEOGRAPH-FACF+IDEOGRAPH-FAD0",
   "+IDEOGRAPH-FAD1+IDEOGRAPH-FAD2+IDEOGRAPH-FAD3+IDEOGRAPH-FAD4+IDEOGRAPH-FAD5+IDEOGRAPH-FAD6",
   "+IDEOGRAPH-FAD7+IDEOGRAPH-FAD8+IDEOGRAPH-FAD9^FB00&mfusmrFF,FI,FL,FFI,FFL,myS T,ST",
   "^FB13&ARMENIANusmrMEN NOW:ECH:INI,VEW NOW,MEN XEH^FB1D&HEBREWmqYODzeHIRIQ",
   "*raJUDEO-SPANISH VARIKA*mrYIDDISH YOD YOD PATAH*mqALTERNATIVEbl+WIDEaj,DALET,jk,lf,LAMED,hqns",
   ",rz,TAV+ALTERNATIVEqzuh+ubzeubft:SINft:euasubft<SINft+ajzePATAH:QAMATS:MAPIQ+BETzeeu+iozeeu",
   "+DALETzeeu+jkzeMAPIQ+VAVzeeu+zvzeeu^FB38+TETzeeu+YODzeeu+hqlfzeeu+lfzeeu+LAMEDzeeu^FB3E+nszeeu",
   "^FB40+pizeeu+tbzeeu^FB43+hqqqzeeu+qqzeeu^FB46+TSADIzeeu+QOFzeeu+rzzeeu+ubzeeu+TAVzeeu",
   "+VAVzeHOLAM+BETzeRAFE+lfzeRAFE+qqzeRAFE*mrajLAMED&azmqajWASLAkvhy:hqhy+BEEHkvhy,hqhy,klhy,nphy",
   "+PEHkvhy,hqhy,klhy,nphy+BEHEHkvhy,hqhy,klhy,nphy+TTEHEHkvhy,hqhy,klhy,nphy+TEHEHkvhy,hqhy,klhy",
   ",nphy+TTEHkvhy,hqhy,klhy,nphy+VEHkvhy,hqhy,klhy,nphy+PEHEHkvhy,hqhy,klhy,nphy+DYEHkvhy,hqhy",
   ",klhy,nphy+NYEHkvhy,hqhy,klhy,nphy+TCHEHkvhy,hqhy,klhy,nphy+TCHEHEHkvhy,hqhy,klhy,nphy",
   "+DDAHALkvhy,hqhy+DAHALkvhy,hqhy+DULkvhy,hqhy+DDALkvhy,hqhy+JEHkvhy,hqhy+RREHkvhy,hqhy",
   "+KEHEHkvhy,hqhy,klhy,nphy+GAFkvhy,hqhy,klhy,nphy+GUEHkvhy,hqhy,klhy,nphy+NGOEHkvhy,hqhy,klhy",
   ",nphy+owGHUNNAkvhy:hqhy+RNOONkvhy,hqhy,klhy,nphy+jpzezladkvhy<hqhy,GOALkvhy:hqhy:klhy:nphy",
   ",DOACHASHMEEkvhy:hqhy:klhy:nphy+zlBARREEkvhy:hqhy:zeizadkvhy=hqhy*vwftad,bx+ybfvad:bx+wyfvad",
   ":bx:rcgcad<bx+ibfvad:bx+fxypbtbx+ybfvyqad;bx+sm+uswaad:bx+WASLAad^FBD3*mqNGkvhy,hqhy,klhy,nphy",
   "+Ukvhy,hqhy+pmkvhy,hqhy+zpkvhy,hqhy+Uzeizadkvhy+VEkvhy,hqhy+KIRGHIZpmkvhy:hqhy,zpkvhy:hqhy",
   "+Ekvhy,hqhy,klhy,nphy+UIGHUR KAZAKH KIRGHIZajnkklhy=nphy*mrzlzeizadzeajkvhy>hqhy=AEkvhy>hqhy",
   "=zakvhy>hqhy=Ukvhy>hqhy=pmkvhy>hqhy=zpkvhy>hqhy=Ekvhy>hqhy>klhy",
   "+UIGHUR KIRGHIZzlzeizadzeajnkkvhy_hqhy_klhy*mqFARSIzlkvhy:hqhy:klhy:nphy*mrzlzeizadzelbkvhy",
   "=ixkvhy=nrkvhy=ajnkkvhy=zlkvhy+bwzelbkvhy:ixkvhy:lokvhy:nrkvhy:ajnkkvhy:zlkvhy+wizelbkvhy",
   ":ixkvhy:lokvhy:nrkvhy:ajnkkvhy:zlkvhy+wozelbkvhy:nrkvhy:ajnkkvhy:zlkvhy+lbzeixkvhy:nrkvhy",
   "+ixzelbkvhy:nrkvhy+lozelbkvhy:ixkvhy:nrkvhy+tjzelbkvhy:ixkvhy:lokvhy:nrkvhy+syzeixkvhy:nrkvhy",
   "+etzelbkvhy:ixkvhy:lokvhy:nrkvhy+wazeixkvhy:nrkvhy+ZAHzenrkvhy+ahzelbkvhy:nrkvhy+imzelbkvhy",
   ":nrkvhy+hlzelbkvhy:ixkvhy:lokvhy:nrkvhy:ajnkkvhy:zlkvhy+rmzeixkvhy:nrkvhy:ajnkkvhy:zlkvhy",
   "+lfzeajkvhy:lbkvhy:ixkvhy:lokvhy:makvhy:nrkvhy:ajnkkvhy:zlkvhy+mazelbkvhy:ixkvhy:lokvhy:nrkvhy",
   ":ajnkkvhy:zlkvhy+nrzelbkvhy:ixkvhy:lokvhy:nrkvhy:ajnkkvhy:zlkvhy+owzelbkvhy:ixkvhy:lokvhy",
   ":nrkvhy:ajnkkvhy:zlkvhy+jpzelbkvhy:nrkvhy:ajnkkvhy:zlkvhy+zlzelbkvhy:ixkvhy:lokvhy:nrkvhy",
   ":ajnkkvhy:zlkvhy+THALzevrajkvhy+ryzevrajkvhy+ajnkzevrajkvhy+SHADDAzeDAMMATANkvhy:KASRATANkvhy",
   ":hjkvhy:ewkvhy:lkkvhy:vrajkvhy+zlzeizadzeryhqhy=zshqhy=nrhqhy=owhqhy=ajnkhqhy=zlhqhy",
   "+bwzeryhqhy:zshqhy:nrhqhy:owhqhy:ajnkhqhy:zlhqhy+wizeryhqhy:zshqhy:nrhqhy:owhqhy:ajnkhqhy",
   ":zlhqhy+wozeryhqhy:zshqhy:nrhqhy:owhqhy:ajnkhqhy:zlhqhy+hlzeajnkhqhy:zlhqhy+rmzeajnkhqhy",
   ":zlhqhy+lfzeajhqhy:mahqhy:nrhqhy:ajnkhqhy:zlhqhy+mazenrhqhy:ajnkhqhy:zlhqhy+nrzeajhqhy:nrhqhy",
   "+owzeryhqhy:zshqhy:nrhqhy:owhqhy:ajnkhqhy:zlhqhy+ajnkzevrajhqhy+zlzeryhqhy:zshqhy:nrhqhy",
   ":owhqhy:ajnkhqhy:zlhqhy:izadzelbklhy=ixklhy=loklhy=nrklhy=jpklhy+bwzelbklhy:ixklhy:loklhy",
   ":nrklhy:jpklhy+wizelbklhy:ixklhy:loklhy:nrklhy:jpklhy+wozenrklhy+lbzeixklhy:nrklhy+ixzelbklhy",
   ":nrklhy+lozelbklhy:nrklhy+tjzelbklhy:ixklhy:loklhy:nrklhy+syzeixklhy:loklhy:nrklhy+etzelbklhy",
   ":ixklhy:loklhy:nrklhy+wazeixklhy+ZAHzenrklhy+ahzelbklhy:nrklhy+imzelbklhy:nrklhy+hlzelbklhy",
   ":ixklhy:loklhy:nrklhy+rmzeixklhy:nrklhy+lfzelbklhy:ixklhy:loklhy:maklhy:nrklhy+mazelbklhy",
   ":ixklhy:loklhy:nrklhy:jpklhy+nrzelbklhy:ixklhy:loklhy:nrklhy+owzelbklhy:ixklhy:loklhy:nrklhy",
   ":jpklhy+jpzelbklhy:nrklhy:vrajklhy+zlzelbklhy:ixklhy:loklhy:nrklhy:jpklhy:izadzenrnphy=jpnphy",
   "+bwzenrnphy:jpnphy+wizenrnphy:jpnphy+wozenrnphy:jpnphy+tjzenrnphy:jpnphy+tyzenrnphy:jpnphy",
   "+lfzemanphy:nrnphy+mazenrnphy+owzenrnphy:jpnphy+zlzenrnphy:jpnphy+SHADDAzehjnphy:ewnphy:lknphy",
   "+wazeajnkkvhy:zlkvhy+ahzeajnkkvhy:zlkvhy+imzeajnkkvhy:zlkvhy+tjzeajnkkvhy:zlkvhy+tyzeajnkkvhy",
   ":zlkvhy+ixzeajnkkvhy:zlkvhy+lbzeajnkkvhy:zlkvhy+lozeajnkkvhy:zlkvhy+syzeajnkkvhy:zlkvhy",
   "+etzeajnkkvhy:zlkvhy+tyzelbkvhy:ixkvhy:lokvhy:nrkvhy:rykvhy+tjzerykvhy+syzerykvhy+etzerykvhy",
   "+wazeajnkhqhy:zlhqhy+ahzeajnkhqhy:zlhqhy+imzeajnkhqhy:zlhqhy+tjzeajnkhqhy:zlhqhy+tyzeajnkhqhy",
   ":zlhqhy+ixzeajnkhqhy:zlhqhy+lbzeajnkhqhy:zlhqhy+lozeajnkhqhy:zlhqhy+syzeajnkhqhy:zlhqhy",
   "+etzeajnkhqhy:zlhqhy+tyzelbhqhy:ixhqhy:lohqhy:nrhqhy:ryhqhy+tjzeryhqhy+syzeryhqhy+etzeryhqhy",
   "+tyzelbklhy:ixklhy:loklhy:nrklhy+tjzejpklhy+tyzejpklhy+wazenrklhy+tjzelbnphy:ixnphy:lonphy",
   "+tyzelbnphy:ixnphy:lonphy+wazenrnphy+ZAHzenrnphy+ajzehkhqhy;kvhy&ORNATEmhqm*sgqm",
   "&azmrRAHIMAHU ALLAAH+RADI ALLAAHU ANH:ANHAA:ANHUM:ANHUMAA:ANHUNNA+SALLALLAAHU ALAYHI WA-AALIH",
   "+ALAYHI AS-SALAAM+ALAYHIM AS-SALAAM+ALAYHIMAA AS-SALAAM+ALAYHI AS-SALAATU WAS-SALAAM",
   "+QUDDISA SIRRAH+SALLALLAHU ALAYHI WAAALIHEE WA-SALLAM+ALAYHAA AS-SALAAM+TABAARAKA WA-TAAALAA",
   "+RAHIMAHUM ALLAAH+wizelbzenrklhy:ixzelbhqhy=klhy<nrklhy:lozenrklhy:nrzelbklhy<ixklhy<loklhy",
   "+lbzenrzeixhqhy=klhy+ixzenrzezlhqhy<ajnkhqhy+tjzeixzelbklhy:lbzeixklhy<ajnkhqhy:nrzeixhqhy",
   "=klhy<lbklhy<nrhqhy=klhy+syzeixzeixhqhy=klhy:nrzenrhqhy+tyzeixzenrhqhy=klhy:lbzezlhqhy",
   ":nrzelohqhy=klhy<nrhqhy=klhy+etzeixzeajnkhqhy:lozenrhqhy=klhy+wazenrzeixhqhy=klhy<nrklhy",
   "<zlhqhy+ahzelbzenrhqhy:nrzenrhqhy=klhy<ajnkhqhy+imzenrzenrhqhy<zlhqhy<ajnkhqhy+hlzelozenrhqhy",
   "=klhy+rmzenrzeixhqhy<nrhqhy+mazeixzenrhqhy<zlhqhy<ajnkhqhy:lbzelbklhy=hqhy:lozenrhqhy=klhy",
   ":nrzeixhqhy=klhy+nrzeixzelbklhy<nrklhy<zlhqhy:lbzeixklhy<nrklhy:lozelbklhy<nrklhy",
   "^FD92:lbzeloklhy+jpzenrzelbklhy<nrklhy+owzeixzenrklhy<ajnkhqhy:lbzenrhqhy=klhy<ajnkhqhy",
   ":nrzezlhqhy<ajnkhqhy+zlzenrzenrhqhy=klhy+bwzelozezlhqhy+wizelbzezlhqhy<ajnkhqhy:lozezlhqhy",
   "<ajnkhqhy:nrzezlhqhy<ajnkhqhy+lbzenrzezlhqhy:ixzeajnkhqhy:nrzeajnkhqhy+tjzelozeajnkhqhy",
   "+syzeixzezlhqhy+tyzeixzezlhqhy+etzeixzezlhqhy+mazelbzezlhqhy:nrzezlhqhy+zlzeixzezlhqhy",
   ":lbzezlhqhy:nrzezlhqhy+nrzenrzezlhqhy+rmzenrzezlhqhy+owzeixzezlhqhy+rmzenrzeixklhy",
   "+mazeixzenrklhy+ahzenrzezlhqhy+lfzenrzezlhqhy+owzelbzeixklhy+nrzelozezlhqhy+mazelbzenrklhy",
   "+lfzenrzenrhqhy+mazelbzenrhqhy+owzelbzeixhqhy+lbzeixzezlhqhy+ixzelbzezlhqhy+nrzelbzezlhqhy",
   "+hlzenrzezlhqhy+bwzeixzezlhqhy+lfzenrzenrklhy+ahzelbzenrklhy+syzenrzenrklhy+tjzelozezlhqhy",
   "+owzelbzezlhqhy^FDCF+SALAAMUHU ALAYNAA^FDF0+SALLA USED AS KORANICvhuhkvhy",
   "+QALA USED AS KORANICvhuhkvhy+ALLAHkvhy+AKBARkvhy+MOHAMMADkvhy+SALAMkvhy+RASOULkvhy+ALAYHEkvhy",
   "+WASALLAMkvhy+SALLAkvhy+SALLALLAHOU ALAYHE WASALLAM+JALLAJALALOUHOU&RIALuh",
   "&azmrBISMILLAH AR-RAHMAN AR-RAHEEM+SUBHAANAHUyxTAAALAA+AZZAyxJALL&VARIATION SELECTOR-1",
   "*SELECTOR-2*SELECTOR-3*SELECTOR-4*SELECTOR-5*SELECTOR-6*SELECTOR-7*SELECTOR-8*SELECTOR-9",
   "*SELECTOR-10*SELECTOR-11*SELECTOR-12*SELECTOR-13*SELECTOR-14*SELECTOR-15*SELECTOR-16",
   "&rfhyhxypdw:kcdw;ifvh:du:tl:hbnm:rtnm:mhzdmocm:sgzdmoBRAKCET:jwgp^FE20&dvmrmhiy+sgiy*fxxcmhiy",
   ",sgiy*ngmhiy+sgiy*CONJOININGng*mrmhiybx+sgiybx*xcmhiybx+sgiybx*ngmhiybx+sgiybx*CONJOININGngbx",
   "*erTITLOmhiy,sgiy&rfhyhxypybftLEADER:EMey:gqey:nbmt:WAVYnbmt:mhqm:sgqm:mheocm:sgeocm:mhxltzcm",
   ":sgxltzcm:mhcgmocm:sgcgmocm:mhfxatcm:sgfxatcm:mhatcm:sgatcm:mhefcm:sgefcm:mhzdefcm:sgzdefcm",
   "&SESAMEft&zdSESAMEft&rfhyhxypmhvccm:sgvccm&ezqf&CENTRELINEqf&WAVYqf&fxWAVYqf&eznbmt",
   "&CENTRELINEnbmt&WAVYnbmt&usdw*kcdw*ifvh^FE54*tl*du*rtnm*hbnm*EMey*mhqm*sgqm*mheocm*sgeocm",
   "*mhxltzcm*sgxltzcm*pguh*aq*bh*qzuh*ka*mpuh*isuh*gvuh^FE68*scuv*DOLLARuh*PERCENTuh*dxAT",
   "^FE70&azhkkvhy*TATWEELzehkad*DAMMATANkvhy*wbFRAGMENT*KASRATANkvhy^FE76*hjkvhy+nphy*ewkvhy+nphy",
   "*lkkvhy+nphy*SHADDAkvhy+nphy*SUKUNkvhy+nphy*mqizkvhy+ajzenhadkvhy<hqhy:izadkvhy<hqhy",
   "+zazeizadkvhy<hqhy+ajzeizbxkvhy<hqhy+zlzeizadkvhy<hqhy<klhy<nphy+ajkvhy,hqhy+bwkvhy,hqhy,klhy",
   ",nphy+wiMARBUTAkvhy:hqhy,kvhy,hqhy,klhy,nphy+wokvhy,hqhy,klhy,nphy+lbkvhy,hqhy,klhy,nphy",
   "+ixkvhy,hqhy,klhy,nphy+lokvhy,hqhy,klhy,nphy+DALkvhy,hqhy+THALkvhy,hqhy+rykvhy,hqhy+zskvhy",
   ",hqhy+tjkvhy,hqhy,klhy,nphy+tykvhy,hqhy,klhy,nphy+sykvhy,hqhy,klhy,nphy+etkvhy,hqhy,klhy,nphy",
   "+wakvhy,hqhy,klhy,nphy+ZAHkvhy,hqhy,klhy,nphy+ahkvhy,hqhy,klhy,nphy+imkvhy,hqhy,klhy,nphy",
   "+hlkvhy,hqhy,klhy,nphy+rmkvhy,hqhy,klhy,nphy+lfkvhy,hqhy,klhy,nphy+makvhy,hqhy,klhy,nphy",
   "+nrkvhy,hqhy,klhy,nphy+owkvhy,hqhy,klhy,nphy+jpkvhy,hqhy,klhy,nphy+zakvhy,hqhy+ajnkkvhy:hqhy",
   "+zlkvhy,hqhy,klhy,nphy*mrmazeajzenhadkvhy>hqhy<izadkvhy>hqhy=bxkvhy>hqhy;kvhy;hqhy",
   "^FEFF&zwWIDTH NO-BREAKuy^FF01&FULLWIDTHhbnm*runm*pguh*DOLLARuh*PERCENTuh*aq*ax*mhqm*sgqm*bh",
   "*qzuh*dw*ka*ifvh*uv*fozw+pt+yb+wy+ib+hu+um+to+gi+or*du*tl*mpuh*gvuh*isuh*rtnm*dxAT*mfcvmqA:B:C",
   ":D:E:F:G:H:I:J:K:L:M:N:O:P:Q:R:S:T:U:V:W:X:Y:Z*mhvccm*scuv*sgvccm*dpae*nbmt*irae*mfusmqA:B:C:D",
   ":E:F:G:H:I:J:K:L:M:N:O:P:Q:R:S:T:U:V:W:X:Y:Z*mheocm*ypmt*sgeocm*xc*mhzdqm*sgzdqm",
   "&HALFWIDTHkcifvh*mhefcm*sgefcm*kcdw*llntft+mqWO,usA:I:U:E:O:zj:zp:YO:TU*lmPROLONGEDuwnm*llmqA",
   ",I,U,E,O,le,KI,KU,KE,KO,sx,SI,SU,SE,SO,vx,TI,TU,wf,xe,ok,NI,NU,NE,ov,iw,HI,HU,jk,HO,nf,MI,of",
   ",ME,MO,zj,zp,YO,rv,RI,RU,RE,RO,yx,N+yvuwnm+SEMI-VOICEDuwnm*jihp+mqls,SSANGKIYEOK,KIYEOK-SIOS",
   ",NIEUN,NIEUN-CIEUC,NIEUN-HIEUH,xb,SSANGTIKEUT,RIEUL,sf,RIEUL-MIEUM,RIEUL-PIEUP,RIEUL-SIOS",
   ",RIEUL-THIEUTH,RIEUL-PHIEUPH,RIEUL-HIEUH,MIEUM,PIEUP,SSANGPIEUP,PIEUP-SIOS,SIOS,SSANGSIOS",
   ",IEUNG,CIEUC,SSANGCIEUC,dl,lp,wr,qv,HIEUH^FFC2,A,AE,zj,YAE,EO,E^FFCA,YEO,YE,O,yx,WAE,pm",
   "^FFD2,YO,U,WEO,WE,WI,zp^FFDA,EU,YI,I^FFE0&FULLWIDTH CENTuh*POUNDuh*ozuh*ng*BROKENbt*YENuh",
   "*WONuh^FFE8&HALFWIDTH FORMSmsyp*mlbd*ykbd*slbd*gcbd*cgvc*zddm",
   "^FFF9&INTERLINEAR ANNOTATION ANCHOR+tn+TERMINATOR&OBJECT REPLACEMENTdf&REPLACEMENTdf"]

end Assay.Text.CharacterName
